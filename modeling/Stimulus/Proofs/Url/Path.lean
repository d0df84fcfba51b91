import Stimulus.Proofs.Url.Percent

/-! Paths that grow.  A plain text becomes one more segment of a path, in its encoded form, and
texts without ignored characters become one segment each, the dots among them left out.  Whatever
is pushed, every segment that a path gains reads as a plain text. -/

namespace Stimulus.Url.Path

open Percent

/-- A text without characters that are left out of URLs. -/
def Clean (text : List Char) : Prop :=
  ∀ c ∈ text, isIgnored c = false

instance (text : List Char) : Decidable (Clean text) :=
  List.decidableBAll _ text

/-- A text that is neither `.` nor `..`. -/
def NoDots (text : List Char) : Prop :=
  text ≠ ['.'] ∧ text ≠ ['.', '.']

instance (text : List Char) : Decidable (NoDots text) :=
  inferInstanceAs (Decidable (_ ∧ _))

/-- A text that one segment of a path can stand for. -/
structure Plain (text : List Char) : Prop where
  clean : Clean text
  noDots : NoDots text

theorem plain_iff {text : List Char} : Plain text ↔ Clean text ∧ NoDots text :=
  ⟨fun h => ⟨h.clean, h.noDots⟩, fun h => ⟨h.1, h.2⟩⟩

instance (text : List Char) : Decidable (Plain text) :=
  decidable_of_iff _ plain_iff.symm

theorem filter_of_clean {text : List Char} (h : Clean text) :
    text.filter (!isIgnored ·) = text :=
  List.filter_eq_self.mpr fun c hc => by simp [h c hc]

/-! ### One segment -/

/-- The segments of a path that is not the root; the root has none. -/
def closed (path : List (List Char)) : List (List Char) :=
  if path = [[]] then [] else path

theorem closed_of_ne {path : List (List Char)} (h : path ≠ [[]]) : closed path = path :=
  if_neg h

theorem push_of_plain {path : List (List Char)} {text : List Char} (h : Plain text) :
    push path text = closed path ++ [encode inSegment text] := by
  have hstep : step (encode inSegment text) = .down := by
    rw [step_encode, if_neg h.noDots.1, if_neg h.noDots.2]
  rw [push, if_neg (not_or.mpr h.noDots)]
  simp [closed, filter_of_clean h.clean, resolve, hstep]

theorem push_of_dots {path : List (List Char)} {text : List Char} (h : ¬NoDots text) :
    push path text = path := by
  rw [push, if_pos (by simpa [NoDots, Classical.or_iff_not_imp_left] using h)]

/-! ### Many segments -/

/-- The segments that texts become, dots left out. -/
def segmentsOf (texts : List (List Char)) : List (List Char) :=
  (texts.filter fun text => NoDots text).map (encode inSegment)

theorem foldl_push {path : List (List Char)} {texts : List (List Char)}
    (hclean : ∀ text ∈ texts, Clean text) (hpath : 1 < path.length) :
    texts.foldl push path = path ++ segmentsOf texts := by
  induction texts generalizing path with
  | nil => simp [segmentsOf]
  | cons text texts ih =>
    have hrest : ∀ text ∈ texts, Clean text := fun t ht => hclean t (.tail _ ht)
    have hroot : path ≠ [[]] := by
      rintro rfl
      simp at hpath
    rw [List.foldl_cons]
    by_cases hdots : NoDots text
    · rw [push_of_plain ⟨hclean text (.head _), hdots⟩, closed_of_ne hroot,
        ih hrest (by rw [List.length_append]; omega)]
      simp [segmentsOf, hdots]
    · rw [push_of_dots hdots, ih hrest hpath]
      simp [segmentsOf, hdots]

/-! ### Growth -/

/-- A path of which at most the first `n` segments are given, the others standing for plain
texts. -/
def Grown (n : Nat) (path : List (List Char)) : Prop :=
  ∃ given gained, path = given ++ gained ∧ given.length ≤ n ∧
    ∀ segment ∈ gained, ∃ text, Plain text ∧ segment = encode inSegment text

namespace Grown

variable {n : Nat} {path : List (List Char)}

theorem of_length_le (h : path.length ≤ n) : Grown n path :=
  ⟨path, [], by simp, h, by simp⟩

theorem add (h : Grown n path) {text : List Char} (htext : Plain text) :
    Grown n (path ++ [encode inSegment text]) := by
  obtain ⟨given, gained, rfl, hgiven, hgained⟩ := h
  refine ⟨given, gained ++ [encode inSegment text], by simp, hgiven, fun segment hsegment => ?_⟩
  rcases List.mem_append.mp hsegment with hsegment | hsegment
  · exact hgained segment hsegment
  · exact ⟨text, htext, List.mem_singleton.mp hsegment⟩

theorem dropLast (h : Grown n path) : Grown n path.dropLast := by
  obtain ⟨given, gained, rfl, hgiven, hgained⟩ := h
  by_cases hempty : gained = []
  · subst hempty
    exact of_length_le (by simp; omega)
  · refine ⟨given, gained.dropLast, List.dropLast_append_of_ne_nil hempty, hgiven, ?_⟩
    exact fun segment hsegment => hgained segment (List.dropLast_subset gained hsegment)

theorem shorten (h : Grown n path) : Grown n (Path.shorten path) := by
  rw [Path.shorten]
  split
  · exact h
  · exact h.dropLast

theorem closed (h : Grown n path) : Grown n (Path.closed path) := by
  rw [Path.closed]
  split
  · exact of_length_le (Nat.zero_le n)
  · exact h

/-- A push gains at most one segment, which stands for a plain text. -/
theorem push (h : Grown n path) (text : List Char) : Grown n (Path.push path text) := by
  rw [Path.push]
  split
  · exact h
  generalize hrest : text.filter (!isIgnored ·) = rest
  have hclean : Clean rest := by
    intro c hc
    rw [← hrest, List.mem_filter] at hc
    simpa using hc.2
  have hdone := h.closed
  rw [Path.closed] at hdone
  revert hdone
  generalize (if path = [[]] then [] else path) = done
  intro hdone
  have hempty : Plain [] := by decide
  have hopen {path : List (List Char)} (h : Grown n path) : Grown n (path ++ [[]]) :=
    h.add hempty
  simp only [resolve, step_encode]
  by_cases hdot : rest = ['.']
  · simpa [hdot] using hopen hdone
  by_cases hdots : rest = ['.', '.']
  · simpa [hdots] using hopen hdone.shorten
  · simpa [hdot, hdots] using hdone.add ⟨hclean, hdot, hdots⟩

theorem foldl_push (h : Grown n path) (texts : List (List Char)) :
    Grown n (texts.foldl Path.push path) := by
  induction texts generalizing path with
  | nil => exact h
  | cons text texts ih => exact ih (h.push text)

/-- A segment behind the given ones stands for a plain text. -/
theorem plain_of_eq_append (h : Grown n path) {front rest : List (List Char)}
    {segment : List Char} (hpath : path = front ++ segment :: rest) (hfront : n ≤ front.length) :
    ∃ text, Plain text ∧ segment = encode inSegment text := by
  obtain ⟨given, gained, heq, hgiven, hgained⟩ := h
  obtain ⟨middle, rfl⟩ : given <+: front :=
    List.prefix_of_prefix_length_le ⟨gained, heq.symm⟩ ⟨segment :: rest, hpath.symm⟩ (by omega)
  refine hgained segment ?_
  have : gained = middle ++ segment :: rest := by
    rw [hpath, List.append_assoc] at heq
    exact (List.append_cancel_left heq).symm
  simp [this]

end Grown

end Stimulus.Url.Path
