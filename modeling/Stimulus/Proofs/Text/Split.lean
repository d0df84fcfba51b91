/-! Pieces of a text between separators.  They hold the characters of the text but no separator,
and a text that ends every line with a separator determines its lines. -/

namespace Stimulus

variable {separator : Char}

/-- A piece of a list between separators holds only elements of the list. -/
theorem mem_of_mem_splitOn {text piece : List Char} {c : Char}
    (hpiece : piece ∈ text.splitOn separator) (hc : c ∈ piece) : c ∈ text := by
  have hmem : ∀ pieces : List (List Char), piece ∈ pieces → c ∈ [separator].intercalate pieces := by
    intro pieces
    induction pieces with
    | nil => simp
    | cons first pieces ih =>
      intro h
      by_cases hempty : pieces = []
      · subst hempty
        simpa [← List.mem_singleton.mp h] using hc
      · rw [List.intercalate_cons_of_ne_nil hempty]
        rcases List.mem_cons.mp h with rfl | h
        · simp [hc]
        · simp [ih h]
  have h := hmem _ hpiece
  rwa [List.intercalate_splitOn] at h

theorem not_mem_of_mem_splitOn {text piece : List Char}
    (h : piece ∈ text.splitOn separator) : separator ∉ piece := by
  rw [List.splitOn] at h
  induction text generalizing piece with
  | nil =>
    obtain rfl : piece = [] := by simpa using h
    simp
  | cons c text ih =>
    rw [List.splitOnP_cons_eq_if_modifyHead] at h
    split at h
    · rcases List.mem_cons.mp h with rfl | h
      · simp
      · exact ih h
    · rename_i hc
      cases hpieces : text.splitOnP (· == separator) with
      | nil => simp [hpieces] at h
      | cons first pieces =>
        rw [hpieces, List.modifyHead_cons] at h
        rcases List.mem_cons.mp h with rfl | h
        · have hfirst : separator ∉ first := ih (by simp [hpieces])
          simp only [beq_iff_eq] at hc
          simp [hfirst, Ne.symm hc]
        · exact ih (by simp [hpieces, h])

/-- A text that does not end with a separator ends with its last piece. -/
theorem exists_getLast?_splitOn (front : List Char) {c : Char} (h : c ≠ separator) :
    ∃ piece, ((front ++ [c]).splitOn separator).getLast? = some (piece ++ [c]) := by
  induction front with
  | nil => exact ⟨[], by simp [List.splitOn_eq_singleton, Ne.symm h]⟩
  | cons d front ih =>
    obtain ⟨piece, hpiece⟩ := ih
    rw [List.cons_append, List.splitOn_cons_eq_if_modifyHead]
    split
    · exact ⟨piece, by rw [List.getLast?_cons, hpiece, Option.getD_some]⟩
    · cases hpieces : (front ++ [c]).splitOn separator with
      | nil => simp [hpieces] at hpiece
      | cons first pieces =>
        rw [hpieces] at hpiece
        cases pieces with
        | nil => exact ⟨d :: piece, by simpa using hpiece⟩
        | cons second pieces => exact ⟨piece, by simpa using hpiece⟩

theorem mem_intercalate {pieces : List (List Char)} {c : Char}
    (h : c ∈ [separator].intercalate pieces) : c = separator ∨ ∃ piece ∈ pieces, c ∈ piece := by
  induction pieces with
  | nil => simp at h
  | cons first pieces ih =>
    by_cases hempty : pieces = []
    · subst hempty
      exact .inr ⟨first, .head _, by simpa using h⟩
    · rw [List.intercalate_cons_of_ne_nil hempty] at h
      rcases List.mem_append.mp h with h | h
      · rcases List.mem_append.mp h with h | h
        · exact .inr ⟨first, .head _, h⟩
        · exact .inl (List.mem_singleton.mp h)
      · rcases ih h with h | ⟨piece, hpiece, hc⟩
        · exact .inl h
        · exact .inr ⟨piece, .tail _ hpiece, hc⟩

/-- Lines that end with a separator are pieces of the text that they are written in. -/
theorem splitOn_flatMap_append {lines : List (List Char)} (hlines : ∀ l ∈ lines, separator ∉ l)
    (rest : List Char) :
    (lines.flatMap (· ++ [separator]) ++ rest).splitOn separator =
      lines ++ rest.splitOn separator := by
  induction lines with
  | nil => rfl
  | cons first lines ih =>
    obtain ⟨hfirst, hlines⟩ := List.forall_mem_cons.mp hlines
    have hsplit := List.splitOn_append_cons_self_of_not_mem hfirst
      (lines.flatMap (· ++ [separator]) ++ rest)
    rw [ih hlines] at hsplit
    simpa using hsplit

/-- What stands before the first separator is determined, and what stands behind it. -/
theorem append_cons_inj {first first' rest rest' : List Char} (hfirst : separator ∉ first)
    (hfirst' : separator ∉ first')
    (h : first ++ separator :: rest = first' ++ separator :: rest') :
    first = first' ∧ rest = rest' := by
  induction first generalizing first' with
  | nil =>
    cases first' with
    | nil => exact ⟨rfl, (List.cons.inj h).2⟩
    | cons c _ =>
      obtain ⟨rfl, -⟩ := List.cons.inj h
      exact absurd (.head _) hfirst'
  | cons c first ih =>
    cases first' with
    | nil =>
      obtain ⟨rfl, -⟩ := List.cons.inj h
      exact absurd (.head _) hfirst
    | cons _ first' =>
      obtain ⟨rfl, htail⟩ := List.cons.inj h
      obtain ⟨rfl, rfl⟩ :=
        ih (fun hc => hfirst (.tail _ hc)) (fun hc => hfirst' (.tail _ hc)) htail
      exact ⟨rfl, rfl⟩

/-- A text determines its lines. -/
theorem eq_of_flatMap_append_eq {lines lines' : List (List Char)}
    (hlines : ∀ l ∈ lines, separator ∉ l) (hlines' : ∀ l ∈ lines', separator ∉ l)
    (h : lines.flatMap (· ++ [separator]) = lines'.flatMap (· ++ [separator])) : lines = lines' := by
  induction lines generalizing lines' with
  | nil =>
    cases lines' with
    | nil => rfl
    | cons _ _ => simp at h
  | cons first lines ih =>
    cases lines' with
    | nil => simp at h
    | cons first' lines' =>
      simp only [List.flatMap_cons, List.append_assoc, List.cons_append, List.nil_append] at h
      obtain ⟨rfl, hrest⟩ := append_cons_inj (hlines _ (.head _)) (hlines' _ (.head _)) h
      rw [ih (fun l hl => hlines l (.tail _ hl)) (fun l hl => hlines' l (.tail _ hl)) hrest]

end Stimulus
