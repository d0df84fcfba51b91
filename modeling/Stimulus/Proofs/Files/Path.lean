import Mathlib.Data.List.TakeWhile
import Stimulus.Files.Path

/-! Paths by their names.  The names of a path are what stands between its slashes, without those
that stand for nothing.  The parent of a path has all its names but the last one and starts in the
same place, so a relative path that is taken from there is looked up beside the path. -/

namespace Stimulus.Path

/-- The names between the slashes of a text. -/
def pieces (text : List Char) : List (List Char) :=
  (text.splitOn '/').filter fun piece => piece ≠ [] ∧ piece ≠ ['.']

def names (path : String) : List (List Char) :=
  pieces path.toList

variable {text : List Char} {path directory : String}

theorem pieces_append_slash (before after : List Char) :
    pieces (before ++ '/' :: after) = pieces before ++ pieces after := by
  rw [pieces, List.splitOn_append_cons_self, List.filter_append]
  rfl

theorem pieces_of_not_mem {piece : List Char} (h : '/' ∉ piece) :
    pieces piece = if piece = [] ∨ piece = ['.'] then [] else [piece] := by
  rw [pieces, List.splitOn_eq_singleton h]
  by_cases hempty : piece = [] <;> by_cases hdot : piece = ['.'] <;> simp [hempty, hdot]

theorem pieces_nil : pieces [] = [] := rfl

theorem pieces_trimEnd (reversed : List Char) :
    pieces (trimEnd reversed).reverse = pieces reversed.reverse := by
  fun_induction trimEnd reversed with
  | case1 rest ih =>
    rw [ih]
    simp only [List.reverse_cons, List.append_assoc, List.cons_append, List.nil_append]
    rw [pieces_append_slash, pieces_append_slash]
    rfl
  | case2 c rest ih =>
    rw [ih, @List.reverse_cons _ '/', pieces_append_slash, pieces_nil, List.append_nil]
  | case3 => rfl

/-- Neither a slash nor a dot that stands for nothing is left at the end. -/
theorem trimEnd_ne (reversed rest : List Char) :
    trimEnd reversed ≠ '.' :: '/' :: rest ∧ ∀ c, trimEnd reversed ≠ '/' :: c :: rest := by
  fun_induction trimEnd reversed with
  | case1 _ ih => exact ih
  | case2 _ _ ih => exact ih
  | case3 path hdot hslash => exact ⟨fun h => hdot _ h, fun c h => hslash _ _ h⟩

theorem getLast?_trimEnd (reversed : List Char) :
    (trimEnd reversed).getLast? = reversed.getLast? := by
  fun_induction trimEnd reversed with
  | case1 rest ih => rw [ih, List.getLast?_cons_cons]
  | case2 c rest ih => rw [ih, List.getLast?_cons_cons]
  | case3 => rfl

/-- Cutting a trimmed path behind its last slash takes the last name away. -/
theorem pieces_dropWhile_trimEnd (reversed : List Char) :
    pieces ((trimEnd reversed).dropWhile (· != '/')).reverse =
      (pieces (trimEnd reversed).reverse).dropLast := by
  have hne := trimEnd_ne reversed
  generalize trimEnd reversed = trimmed at hne ⊢
  have hsplit := List.takeWhile_append_dropWhile (p := (· != '/')) (l := trimmed)
  have hpiece : '/' ∉ (trimmed.takeWhile (· != '/')).reverse := by
    intro hmem
    simpa using List.mem_takeWhile_imp (List.mem_reverse.mp hmem)
  generalize trimmed.takeWhile (· != '/') = piece at hsplit hpiece
  cases hbehind : trimmed.dropWhile (· != '/') with
  | nil =>
    rw [hbehind, List.append_nil] at hsplit
    subst hsplit
    rw [pieces_of_not_mem hpiece]
    split <;> rfl
  | cons c more =>
    obtain rfl : c = '/' := by
      have hhead := List.head?_dropWhile_not (· != '/') trimmed
      rw [hbehind] at hhead
      simpa using hhead
    rw [hbehind] at hsplit
    subst hsplit
    simp only [List.reverse_append, List.reverse_cons, List.append_assoc, List.cons_append,
      List.nil_append]
    rw [pieces_append_slash, pieces_append_slash, pieces_nil, List.append_nil]
    by_cases hempty : piece = []
    · -- Only the root starts with a slash in reverse.
      subst hempty
      cases more with
      | nil => rfl
      | cons c more => exact absurd rfl ((hne more).2 c)
    · have hdot : piece ≠ ['.'] := by
        rintro rfl
        exact (hne more).1 rfl
      rw [pieces_of_not_mem hpiece, if_neg (by simp [hempty, hdot]), List.dropLast_concat]

theorem getLast?_dropWhile (text : List Char) :
    (text.dropWhile (· != '/')).getLast? = some '/' ↔ text.getLast? = some '/' := by
  have hsplit := List.takeWhile_append_dropWhile (p := (· != '/')) (l := text)
  have hpiece : '/' ∉ text.takeWhile (· != '/') := by
    intro hmem
    simpa using List.mem_takeWhile_imp hmem
  cases hbehind : text.dropWhile (· != '/') with
  | nil =>
    rw [hbehind, List.append_nil] at hsplit
    rw [hsplit] at hpiece
    refine iff_of_false (by simp) fun hlast => hpiece ?_
    exact List.mem_of_getLast? hlast
  | cons c behind =>
    rw [hbehind] at hsplit
    rw [← hsplit, List.getLast?_append, List.getLast?_cons, Option.some_or]

/-- The parent of a path has the names of the path but for the last one, and starts where the path
does. -/
theorem names_parent? (h : parent? path = some directory) :
    names directory = (names path).dropLast ∧ isRelative directory = isRelative path := by
  have hnames := pieces_dropWhile_trimEnd path.toList.reverse
  have hlast := getLast?_trimEnd path.toList.reverse
  rw [pieces_trimEnd, List.reverse_reverse] at hnames
  unfold parent? at h
  split at h
  · cases h
  · cases h
  · cases h
    rw [names, String.toList_ofList, pieces_trimEnd, hnames]
    refine ⟨rfl, ?_⟩
    rw [List.getLast?_reverse] at hlast
    rw [isRelative, isRelative, Bool.eq_iff_iff, bne_iff_ne, bne_iff_ne, String.toList_ofList,
      List.head?_reverse, getLast?_trimEnd, ← hlast]
    exact not_congr (getLast?_dropWhile _)

theorem names_of_parent?_eq_none (h : parent? path = none) : names path = [] := by
  rw [names, ← List.reverse_reverse path.toList, ← pieces_trimEnd]
  unfold parent? at h
  split at h
  · rename_i hempty
    rw [hempty]
    rfl
  · rename_i hroot
    rw [hroot]
    rfl
  · cases h

/-- A path is joined to a directory behind a text that names the directory. -/
theorem exists_join (directory path : String) :
    ∃ front, join directory path = front ++ path ∧ names front = names directory ∧
      (front = "" ∨ front.toList.getLast? = some '/') ∧
      isRelative front = isRelative directory := by
  unfold join
  split
  · rename_i h
    refine ⟨directory, rfl, rfl, ?_, rfl⟩
    simpa [String.isEmpty_iff] using h
  · rename_i h
    have hne : directory.toList ≠ [] := by
      simp_all [String.isEmpty_iff]
    refine ⟨directory ++ "/", rfl, ?_, .inr ?_, ?_⟩
    · rw [names, String.toList_append]
      exact (pieces_append_slash _ []).trans (List.append_nil _)
    · rw [String.toList_append]
      exact List.getLast?_concat
    · rw [isRelative, isRelative, String.toList_append, List.head?_append,
        List.head?_eq_some_head hne, Option.some_or]

end Stimulus.Path
