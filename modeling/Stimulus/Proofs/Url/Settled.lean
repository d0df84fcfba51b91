import Stimulus.Proofs.Text.Split
import Stimulus.Proofs.Url.Path
import Stimulus.Url.Parser

/-! Paths that are read as they are written.  Their segments hold only characters that a path
keeps, and none of them is a dot segment, so cutting the text of the path at its slashes and
encoding its segments gives the path again.  Every path of a URL that was read is one, and so is
every path that grows from it, whatever texts are pushed. -/

namespace Stimulus.Url

namespace Percent

theorem encode_eq_self {inSet : Char → Bool} {s : List Char} (h : ∀ c ∈ s, inSet c = false) :
    encode inSet s = s := by
  induction s with
  | nil => rfl
  | cons c s ih =>
    have hc := h c (.head _)
    have hs := ih fun d hd => h d (.tail _ hd)
    rw [encode, List.flatMap_cons, ← encode, hs, encodeChar, hc]
    rfl

/-- Text that is encoded for one part of a URL holds no character that is encoded in a part with a
smaller set. -/
theorem notIn_of_mem_encode {inSet inSmaller : Char → Bool} {s : List Char} {c : Char}
    (hsmaller : ∀ c, inSet c = false → inSmaller c = false) (hpercent : inSmaller '%' = false)
    (hdigit : ∀ n < 16, inSmaller (digit n) = false) (h : c ∈ encode inSet s) :
    inSmaller c = false := by
  rcases mem_encode h with h | rfl | ⟨n, hn, rfl⟩
  · exact hsmaller c h
  · exact hpercent
  · exact hdigit n hn

theorem inPath_of_inSegment {c : Char} (h : inSegment c = false) : inPath c = false := by
  simp only [inSegment, Bool.or_eq_false_iff] at h
  exact h.1

/-- A character that a path keeps is visible. -/
theorem lt_of_inPath {c : Char} (h : inPath c = false) : 0x20 < c.toNat := by
  simp only [inPath, inFragment, isControl, Bool.or_eq_false_iff, decide_eq_false_iff_not] at h
  obtain ⟨⟨⟨hlow, -⟩, hlisted⟩, -⟩ := h
  have hblank : c.toNat ≠ 0x20 := by
    intro heq
    obtain rfl : c = ' ' := Char.toNat_inj.mp heq
    revert hlisted
    decide
  omega

/-- A character that a query keeps is visible. -/
theorem lt_of_inQuery {c : Char} (h : inQuery c = false) : 0x20 < c.toNat := by
  simp only [inQuery, isControl, Bool.or_eq_false_iff, decide_eq_false_iff_not] at h
  obtain ⟨⟨hlow, -⟩, hlisted⟩ := h
  have hblank : c.toNat ≠ 0x20 := by
    intro heq
    obtain rfl : c = ' ' := Char.toNat_inj.mp heq
    revert hlisted
    decide
  omega

end Percent

namespace Path

open Percent

/-! ### Segments -/

/-- A segment whose characters a path keeps, none of them a slash. -/
def Written (segment : List Char) : Prop :=
  ∀ c ∈ segment, inPath c = false ∧ isSlash c = false

/-- A segment that a path keeps as it is. -/
structure Fixed (segment : List Char) : Prop where
  written : Written segment
  down : step segment = .down

theorem fixed_nil : Fixed [] :=
  ⟨by simp [Written], rfl⟩

theorem written_encode_inPath {piece : List Char} (h : ∀ c ∈ piece, isSlash c = false) :
    Written (encode inPath piece) := by
  intro c hc
  have hkept := notIn_of_mem_encode (fun _ h => h) (by decide) (by decide) hc
  refine ⟨hkept, ?_⟩
  obtain ⟨d, hd, hc⟩ := List.mem_flatMap.mp hc
  by_cases hset : inPath d = true
  · -- The code of a byte has no slash.
    rw [encodeChar, if_pos hset] at hc
    obtain ⟨b, -, hb⟩ := List.mem_flatMap.mp hc
    have hlt : b.toNat < 256 := b.toNat_lt
    have hno : ∀ n < 16, isSlash (digit n) = false := by decide
    simp only [ofByte, List.mem_cons, List.not_mem_nil, or_false] at hb
    rcases hb with rfl | rfl | rfl
    · decide
    · exact hno _ (by omega)
    · exact hno _ (by omega)
  · rw [encodeChar, if_neg hset, List.mem_singleton] at hc
    rw [hc]
    exact h d hd

theorem written_encode_inSegment (text : List Char) : Written (encode inSegment text) := by
  intro c hc
  have hends := not_mem_encode_inSegment text c hc
  refine ⟨?_, by simp [isSlash, hends.1, hends.2.2.2]⟩
  exact notIn_of_mem_encode (fun _ => inPath_of_inSegment) (by decide) (by decide) hc

/-! ### Paths -/

/-- A path that is read as it is written. -/
structure Settled (path : List (List Char)) : Prop where
  nonempty : path ≠ []
  fixed : ∀ segment ∈ path, Fixed segment

theorem mem_of_mem_shorten {path : List (List Char)} {segment : List Char}
    (h : segment ∈ shorten path) : segment ∈ path := by
  rw [shorten] at h
  split at h
  · exact h
  · exact List.dropLast_subset path h

/-- Where the dot segments of written segments are followed, a settled path is left. -/
theorem settled_resolve {done segments : List (List Char)} (hdone : ∀ s ∈ done, Fixed s)
    (hsegments : ∀ s ∈ segments, Written s) (hne : segments ≠ []) :
    Settled (resolve done segments) := by
  have hshort {done : List (List Char)} (hdone : ∀ s ∈ done, Fixed s) :
      ∀ s ∈ shorten done, Fixed s := fun s hs => hdone s (mem_of_mem_shorten hs)
  have hadd {done : List (List Char)} {last : List Char} (hdone : ∀ s ∈ done, Fixed s)
      (hlast : Fixed last) : ∀ s ∈ done ++ [last], Fixed s := by
    intro s hs
    rcases List.mem_append.mp hs with hs | hs
    · exact hdone s hs
    · rwa [List.mem_singleton.mp hs]
  induction segments generalizing done with
  | nil => exact absurd rfl hne
  | cons segment rest ih =>
    have hsegment := hsegments segment (.head _)
    cases rest with
    | nil =>
      cases hstep : step segment <;> simp only [resolve, hstep]
      case down => exact ⟨by simp, hadd hdone ⟨hsegment, hstep⟩⟩
      case stay => exact ⟨by simp, hadd hdone fixed_nil⟩
      case up => exact ⟨by simp, hadd (hshort hdone) fixed_nil⟩
    | cons next rest =>
      have hrest : ∀ s ∈ next :: rest, Written s := fun s hs => hsegments s (.tail _ hs)
      cases hstep : step segment <;> simp only [resolve, hstep]
      case down => exact ih (hadd hdone ⟨hsegment, hstep⟩) hrest (by simp)
      case stay => exact ih hdone hrest (by simp)
      case up => exact ih (hshort hdone) hrest (by simp)

theorem not_isSlash_of_mem_split {text piece : List Char} {c : Char} (h : piece ∈ split text)
    (hc : c ∈ piece) : isSlash c = false := by
  have hslash : c ≠ '/' := by
    rintro rfl
    exact not_mem_of_mem_splitOn h hc
  have hmem := mem_of_mem_splitOn h hc
  obtain ⟨d, -, hd⟩ := List.mem_map.mp hmem
  have hback : c ≠ '\\' := by
    rintro rfl
    split at hd
    · exact absurd hd (by decide)
    · contradiction
  simp [isSlash, hslash, hback]

theorem settled_parse (text : List Char) : Settled (parse text) := by
  unfold parse
  refine settled_resolve (by simp) ?_ ?_
  · intro segment hsegment
    obtain ⟨piece, hpiece, rfl⟩ := List.mem_map.mp hsegment
    exact written_encode_inPath fun c hc => not_isSlash_of_mem_split hpiece hc
  · simp [split]

namespace Settled

variable {path : List (List Char)}

theorem dropOpenEnd (h : Settled path) : Settled (Path.dropOpenEnd path) := by
  rw [Path.dropOpenEnd]
  split
  · rename_i hopen
    refine ⟨fun hnil => ?_, fun s hs => h.fixed s (List.dropLast_subset path hs)⟩
    have hlength := congrArg List.length hnil
    rw [List.length_dropLast, List.length_nil] at hlength
    omega
  · exact h

theorem push (h : Settled path) (text : List Char) : Settled (Path.push path text) := by
  rw [Path.push]
  split
  · exact h
  · refine settled_resolve (fun s hs => ?_) ?_ (by simp)
    · split at hs
      · cases hs
      · exact h.fixed s hs
    · intro s hs
      rw [List.mem_singleton.mp hs]
      exact written_encode_inSegment _

theorem extend (h : Settled path) (texts : List (List Char)) : Settled (Path.extend path texts) := by
  have hfold : ∀ path, Settled path → Settled (texts.foldl Path.push path) := by
    induction texts with
    | nil => exact fun path h => h
    | cons text texts ih => exact fun path h => ih _ (h.push text)
  exact hfold _ h.dropOpenEnd

end Settled

/-! ### Reading a path again -/

theorem resolve_of_down {done segments : List (List Char)} (h : ∀ s ∈ segments, step s = .down) :
    resolve done segments = done ++ segments := by
  induction segments generalizing done with
  | nil => simp [resolve]
  | cons segment rest ih =>
    have hstep := h segment (.head _)
    cases rest with
    | nil => simp only [resolve, hstep]
    | cons next rest =>
      simp only [resolve, hstep]
      rw [ih fun s hs => h s (.tail _ hs)]
      simp

theorem pathText_eq {path : List (List Char)} (h : path ≠ []) :
    pathText path = '/' :: ['/'].intercalate path := by
  induction path with
  | nil => exact absurd rfl h
  | cons segment rest ih =>
    by_cases hrest : rest = []
    · simp [hrest, pathText]
    · rw [List.intercalate_cons_of_ne_nil hrest, pathText, List.flatMap_cons, ← pathText, ih hrest]
      simp

/-- A settled path is read from its text. -/
theorem Settled.parse_pathText {path : List (List Char)} (h : Settled path) :
    Path.parse (pathText path) = path := by
  have hslash {segment : List Char} (hs : segment ∈ path) : ∀ c ∈ segment, c ≠ '/' ∧ c ≠ '\\' := by
    intro c hc
    have := ((h.fixed segment hs).written c hc).2
    simpa [isSlash] using this
  -- No character of the segments is taken for a slash.
  have hsame : ∀ c ∈ ['/'].intercalate path, (if c = '\\' then '/' else c) = c := by
    intro c hc
    have hne : c ≠ '\\' := by
      rintro rfl
      have hmem : '\\' ∈ pathText path := by
        rw [pathText_eq h.nonempty]
        exact .tail _ hc
      obtain ⟨segment, hs, hc⟩ := List.mem_flatMap.mp hmem
      rcases List.mem_cons.mp hc with hc | hc
      · exact absurd hc (by decide)
      · exact (hslash hs _ hc).2 rfl
    rw [if_neg hne]
  have hsplit : split (['/'].intercalate path) = path := by
    rw [split, List.map_congr_left hsame, List.map_id'']
    · exact List.splitOn_intercalate '/' (fun s hs hmem => (hslash hs _ hmem).1 rfl) h.nonempty
    · exact fun _ => rfl
  have hencode : path.map (encode inPath) = path := by
    rw [List.map_congr_left (g := id), List.map_id]
    intro s hs
    exact encode_eq_self fun c hc => ((h.fixed s hs).written c hc).1
  rw [pathText_eq h.nonempty, parse, hsplit, hencode,
    resolve_of_down fun s hs => (h.fixed s hs).down, List.nil_append]

end Path

end Stimulus.Url
