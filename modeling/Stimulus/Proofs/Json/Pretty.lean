import Stimulus.Proofs.Json.Compact
import Stimulus.Text.Blank

/-! Pretty JSON against compact JSON.  The two writers put down the same tokens in the same order,
and pretty text has white space between them and nowhere else: `withoutBlanks` takes it out and
leaves the compact text.  The lines of pretty text end between tokens, since no string holds a line
feed or a carriage return. -/

namespace Stimulus.Json

/-- Where a character stands in JSON text. -/
inductive Position where
  | outside
  /-- In a string. -/
  | inside
  /-- In a string, right behind a backslash. -/
  | escaped

/-- The place behind a character that is kept. -/
def Position.next : Position → Char → Position
  | outside, '"' => inside
  | outside, _ => outside
  | inside, '"' => outside
  | inside, '\\' => escaped
  | inside, _ => inside
  | escaped, _ => inside

/-- JSON text without the white space outside its strings. -/
def withoutBlanks : Position → List Char → List Char
  | _, [] => []
  | .outside, c :: rest =>
    if Text.isBlank c then withoutBlanks .outside rest
    else c :: withoutBlanks (Position.next .outside c) rest
  | position, c :: rest => c :: withoutBlanks (position.next c) rest

variable {front rest : List Char}

/-! ### Tokens -/

/-- A text that is no string and has no white space: all of it is kept, and no string starts in
it. -/
def Plain (text : List Char) : Prop :=
  ∀ c ∈ text, Text.isBlank c = false ∧ c ≠ '"'

instance (text : List Char) : Decidable (Plain text) :=
  List.decidableBAll (fun c => Text.isBlank c = false ∧ c ≠ '"') text

theorem Position.next_outside {c : Char} (h : c ≠ '"') : next .outside c = .outside := by
  unfold next
  split <;> simp_all

theorem withoutBlanks_cons {c : Char} (hblank : Text.isBlank c = false) (hquote : c ≠ '"') :
    withoutBlanks .outside (c :: rest) = c :: withoutBlanks .outside rest := by
  simp [withoutBlanks, hblank, Position.next_outside hquote]

theorem withoutBlanks_of_plain (h : Plain front) :
    withoutBlanks .outside (front ++ rest) = front ++ withoutBlanks .outside rest := by
  induction front with
  | nil => rfl
  | cons c front ih =>
    obtain ⟨⟨hblank, hquote⟩, hfront⟩ := List.forall_mem_cons.mp h
    rw [List.cons_append, withoutBlanks_cons hblank hquote, ih hfront, List.cons_append]

theorem withoutBlanks_of_blank (h : ∀ c ∈ front, Text.isBlank c = true) :
    withoutBlanks .outside (front ++ rest) = withoutBlanks .outside rest := by
  induction front with
  | nil => rfl
  | cons c front ih =>
    obtain ⟨hblank, hfront⟩ := List.forall_mem_cons.mp h
    simp [withoutBlanks, hblank, ih hfront]

theorem withoutBlanks_newLine (level : Nat) :
    withoutBlanks .outside (newLine level ++ rest) = withoutBlanks .outside rest := by
  apply withoutBlanks_of_blank
  intro c hc
  rcases List.mem_cons.mp hc with rfl | hc
  · decide
  · rw [List.eq_of_mem_replicate hc]
    decide

theorem plain_of_isNumeral {c : Char} (h : Decimal.isNumeral c = true) :
    Text.isBlank c = false ∧ c ≠ '"' := by
  simp only [Decimal.isNumeral, Bool.or_eq_true, Char.isDigit, Bool.and_eq_true, decide_eq_true_eq,
    List.contains_iff_mem, List.mem_cons, List.not_mem_nil, or_false] at h
  rcases h with ⟨hlow, hhigh⟩ | rfl | rfl | rfl | rfl
  · have hlow : 0x30 ≤ c.toNat := UInt32.le_iff_toNat_le.mp hlow
    have hhigh : c.toNat ≤ 0x39 := UInt32.le_iff_toNat_le.mp hhigh
    refine ⟨?_, ?_⟩
    · simp only [Text.isBlank, Bool.or_eq_false_iff, Bool.and_eq_false_iff, decide_eq_false_iff_not,
        beq_eq_false_iff_ne]
      omega
    · rintro rfl
      exact absurd hlow (by decide)
  all_goals decide

theorem plain_numberText (number : Number) : Plain (numberText number) := by
  intro c hc
  apply plain_of_isNumeral
  cases number with
  | integer value => exact Decimal.allNumeral_ofInt value c hc
  | float value => exact Decimal.allNumeral_text .data value c hc

/-! ### Strings -/

theorem withoutBlanks_inside {c : Char} (hquote : c ≠ '"') (hbackslash : c ≠ '\\') :
    withoutBlanks .inside (c :: rest) = c :: withoutBlanks .inside rest := by
  have hnext : Position.next .inside c = .inside := by
    unfold Position.next
    split <;> simp_all
  rw [withoutBlanks, hnext]
  simp

/-- What a character is written as does not end the string, and leaves no backslash behind. -/
theorem withoutBlanks_escapeChar (c : Char) :
    withoutBlanks .inside (escapeChar c ++ rest) = escapeChar c ++ withoutBlanks .inside rest := by
  unfold escapeChar
  split
  case h_8 hquote hbackslash _ _ _ _ _ =>
    split
    · have hdigit : ∀ d < 16, hexDigit d ≠ '"' ∧ hexDigit d ≠ '\\' := by decide
      obtain ⟨hhigh, hhigh'⟩ := hdigit (c.toNat / 16) (by omega)
      obtain ⟨hlow, hlow'⟩ := hdigit (c.toNat % 16) (by omega)
      have hdigits := @withoutBlanks_inside (hexDigit (c.toNat % 16) :: rest) _ hhigh hhigh'
      rw [withoutBlanks_inside hlow hlow'] at hdigits
      simp [withoutBlanks, Position.next, hdigits]
    · exact withoutBlanks_inside hquote hbackslash
  all_goals rfl

theorem withoutBlanks_stringText (s : String) :
    withoutBlanks .outside (stringText s ++ rest) =
      stringText s ++ withoutBlanks .outside rest := by
  have hinside (text : List Char) : withoutBlanks .inside (text.flatMap escapeChar ++ '"' :: rest) =
      text.flatMap escapeChar ++ '"' :: withoutBlanks .outside rest := by
    induction text with
    | nil => rfl
    | cons c text ih =>
      rw [List.flatMap_cons, List.append_assoc, withoutBlanks_escapeChar, ih, List.append_assoc]
  have hopen : Text.isBlank '"' = false := by decide
  simp [stringText, withoutBlanks, hopen, Position.next, hinside]

/-! ### Values -/

theorem withoutBlanks_mark {c : Char} (h : c ∈ ['[', ']', '{', '}', ',', ':']) :
    withoutBlanks .outside (c :: rest) = c :: withoutBlanks .outside rest := by
  have hmarks : Plain ['[', ']', '{', '}', ',', ':'] := by decide
  obtain ⟨hblank, hquote⟩ := hmarks c h
  exact withoutBlanks_cons hblank hquote

theorem withoutBlanks_space :
    withoutBlanks .outside (' ' :: rest) = withoutBlanks .outside rest := rfl

mutual

/-- Pretty text without the white space between its tokens is compact text. -/
theorem withoutBlanks_pretty (level : Nat) : ∀ (value : Json) (rest : List Char),
    withoutBlanks .outside (pretty level value ++ rest) =
      compact value ++ withoutBlanks .outside rest
  | .null, rest => by
    have hplain : Plain "null".toList := by decide
    simp only [pretty, compact, withoutBlanks_of_plain hplain]
  | .boolean value, rest => by
    have hplain : Plain (booleanText value) := by cases value <;> decide
    simp only [pretty, compact, withoutBlanks_of_plain hplain]
  | .number value, rest => withoutBlanks_of_plain (plain_numberText value)
  | .string value, rest => withoutBlanks_stringText value
  | .array [], rest => by simp [pretty, compact, withoutBlanks_mark]
  | .array (item :: items), rest => by
    have hitem := withoutBlanks_pretty (level + 1) item
    have hitems := withoutBlanks_prettyItems level items
    simp [pretty, compact, withoutBlanks_mark, withoutBlanks_newLine, hitem, hitems]
  | .object [], rest => by simp [pretty, compact, withoutBlanks_mark]
  | .object ((name, value) :: members), rest => by
    have hvalue := withoutBlanks_pretty (level + 1) value
    have hmembers := withoutBlanks_prettyMembers level members
    simp [pretty, compact, withoutBlanks_mark, withoutBlanks_newLine, withoutBlanks_space,
      withoutBlanks_stringText, hvalue, hmembers]

theorem withoutBlanks_prettyItems (level : Nat) : ∀ (items : List Json) (rest : List Char),
    withoutBlanks .outside (prettyItems level items ++ rest) =
      compactItems items ++ withoutBlanks .outside rest
  | [], rest => by
    simp [prettyItems, compactItems, withoutBlanks_mark, withoutBlanks_newLine]
  | item :: items, rest => by
    have hitem := withoutBlanks_pretty (level + 1) item
    have hitems := withoutBlanks_prettyItems level items
    simp [prettyItems, compactItems, withoutBlanks_mark, withoutBlanks_newLine, hitem, hitems]

theorem withoutBlanks_prettyMembers (level : Nat) :
    ∀ (members : List (String × Json)) (rest : List Char),
    withoutBlanks .outside (prettyMembers level members ++ rest) =
      compactMembers members ++ withoutBlanks .outside rest
  | [], rest => by
    simp [prettyMembers, compactMembers, withoutBlanks_mark, withoutBlanks_newLine]
  | (name, value) :: members, rest => by
    have hvalue := withoutBlanks_pretty (level + 1) value
    have hmembers := withoutBlanks_prettyMembers level members
    simp [prettyMembers, compactMembers, withoutBlanks_mark, withoutBlanks_newLine,
      withoutBlanks_space, withoutBlanks_stringText, hvalue, hmembers]

end

theorem withoutBlanks_prettyText (value : Json) :
    withoutBlanks .outside value.prettyText.toList = value.text.toList := by
  have h := withoutBlanks_pretty 0 value []
  simpa [prettyText, text, withoutBlanks] using h

/-! ### Lines -/

theorem eq_of_mem_newLine {level : Nat} {c : Char} (h : c ∈ newLine level) : c = ' ' ∨ c = '\n' := by
  rcases List.mem_cons.mp h with rfl | h
  · exact .inr rfl
  · exact .inl (List.eq_of_mem_replicate h)

mutual

/-- Pretty text has the characters of compact text, spaces and line feeds. -/
theorem mem_pretty (level : Nat) : ∀ (value : Json) {c : Char}, c ∈ pretty level value →
    c ∈ compact value ∨ c = ' ' ∨ c = '\n'
  | .null, _, h => .inl h
  | .boolean _, _, h => .inl h
  | .number _, _, h => .inl h
  | .string _, _, h => .inl h
  | .array [], _, h => .inl h
  | .array (item :: items), c, h => by
    have hitem := @mem_pretty (level + 1) item c
    have hitems := @mem_prettyItems level items c
    have hline := @eq_of_mem_newLine (level + 1) c
    simp only [pretty, compact, List.mem_cons, List.mem_append] at h ⊢
    grind
  | .object [], _, h => .inl h
  | .object ((name, value) :: members), c, h => by
    have hvalue := @mem_pretty (level + 1) value c
    have hmembers := @mem_prettyMembers level members c
    have hline := @eq_of_mem_newLine (level + 1) c
    simp only [pretty, compact, List.mem_cons, List.mem_append] at h ⊢
    grind

theorem mem_prettyItems (level : Nat) : ∀ (items : List Json) {c : Char},
    c ∈ prettyItems level items → c ∈ compactItems items ∨ c = ' ' ∨ c = '\n'
  | [], c, h => by
    have hline := @eq_of_mem_newLine level c
    simp only [prettyItems, compactItems, List.mem_append] at h ⊢
    grind
  | item :: items, c, h => by
    have hitem := @mem_pretty (level + 1) item c
    have hitems := @mem_prettyItems level items c
    have hline := @eq_of_mem_newLine (level + 1) c
    simp only [prettyItems, compactItems, List.mem_cons, List.mem_append] at h ⊢
    grind

theorem mem_prettyMembers (level : Nat) : ∀ (members : List (String × Json)) {c : Char},
    c ∈ prettyMembers level members → c ∈ compactMembers members ∨ c = ' ' ∨ c = '\n'
  | [], c, h => by
    have hline := @eq_of_mem_newLine level c
    simp only [prettyMembers, compactMembers, List.mem_append] at h ⊢
    grind
  | (name, value) :: members, c, h => by
    have hvalue := @mem_pretty (level + 1) value c
    have hmembers := @mem_prettyMembers level members c
    have hline := @eq_of_mem_newLine (level + 1) c
    simp only [prettyMembers, compactMembers, List.mem_cons, List.mem_append] at h ⊢
    grind

end

/-- The only control character of pretty text is the line feed. -/
theorem eq_newline_of_mem_prettyText {value : Json} {c : Char} (h : c ∈ value.prettyText.toList)
    (hcontrol : c.toNat < 0x20) : c = '\n' := by
  rw [prettyText, String.toList_ofList] at h
  rcases mem_pretty 0 value h with hcompact | rfl | rfl
  · have hvisible := visible_compact value c hcompact
    omega
  · exact absurd hcontrol (by decide)
  · rfl

theorem exists_prettyItems_eq (level : Nat) (items : List Json) :
    ∃ front, prettyItems level items = front ++ [']'] := by
  induction items with
  | nil => exact ⟨newLine level, rfl⟩
  | cons item items ih =>
    obtain ⟨front, hfront⟩ := ih
    exact ⟨',' :: (newLine (level + 1) ++ pretty (level + 1) item ++ front),
      by simp [prettyItems, hfront]⟩

theorem exists_prettyMembers_eq (level : Nat) (members : List (String × Json)) :
    ∃ front, prettyMembers level members = front ++ ['}'] := by
  induction members with
  | nil => exact ⟨newLine level, rfl⟩
  | cons member members ih =>
    obtain ⟨name, value⟩ := member
    obtain ⟨front, hfront⟩ := ih
    exact ⟨',' :: (newLine (level + 1) ++ stringText name ++ ':' :: ' ' ::
      pretty (level + 1) value ++ front), by simp [prettyMembers, hfront]⟩

/-- Pretty text does not end with a line feed. -/
theorem exists_pretty_eq (level : Nat) (value : Json) :
    ∃ front c, pretty level value = front ++ [c] ∧ c ≠ '\n' := by
  -- Scalars are written as in compact text, and brackets close the rest.
  have hscalar (hsame : pretty level value = compact value) (hne : compact value ≠ []) :
      ∃ front c, pretty level value = front ++ [c] ∧ c ≠ '\n' := by
    refine ⟨_, _, by rw [hsame, List.dropLast_concat_getLast hne], fun hnewline => ?_⟩
    have hvisible := visible_compact value _ (List.getLast_mem hne)
    rw [hnewline] at hvisible
    exact absurd hvisible (by decide)
  cases value with
  | null => exact hscalar rfl (by decide)
  | boolean value => exact hscalar rfl (by cases value <;> decide)
  | number value =>
    refine hscalar rfl ?_
    cases value with
    | integer value => exact Decimal.ofInt_ne_nil value
    | float value => exact Decimal.text_ne_nil .data value
  | string value => exact hscalar rfl (by simp [compact, stringText])
  | array items =>
    cases items with
    | nil => exact ⟨['['], ']', rfl, by decide⟩
    | cons item items =>
      obtain ⟨front, hfront⟩ := exists_prettyItems_eq level items
      exact ⟨'[' :: (newLine (level + 1) ++ pretty (level + 1) item ++ front), ']',
        by simp [pretty, hfront], by decide⟩
  | object members =>
    cases members with
    | nil => exact ⟨['{'], '}', rfl, by decide⟩
    | cons member members =>
      obtain ⟨name, value⟩ := member
      obtain ⟨front, hfront⟩ := exists_prettyMembers_eq level members
      exact ⟨'{' :: (newLine (level + 1) ++ stringText name ++ ':' :: ' ' ::
        pretty (level + 1) value ++ front), '}', by simp [pretty, hfront], by decide⟩

end Stimulus.Json
