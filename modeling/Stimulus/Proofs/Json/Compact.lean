import Stimulus.Json.Printer

/-! The characters of compact JSON.  Numbers are written with a few characters, and strings escape
those of theirs that could not be seen, so compact text has no control character: it stands on one
line, and it starts no terminal sequence. -/

namespace Stimulus

namespace Decimal

/-- A character that numbers are written with. -/
def isNumeral (c : Char) : Bool :=
  c.isDigit || ['+', '-', '.', 'e'].contains c

def AllNumeral (text : List Char) : Prop :=
  ∀ c ∈ text, isNumeral c = true

@[simp] theorem allNumeral_nil : AllNumeral [] := by
  simp [AllNumeral]

@[simp] theorem allNumeral_cons {c : Char} {text : List Char} :
    AllNumeral (c :: text) ↔ isNumeral c = true ∧ AllNumeral text := by
  simp [AllNumeral]

@[simp] theorem allNumeral_append {front back : List Char} :
    AllNumeral (front ++ back) ↔ AllNumeral front ∧ AllNumeral back := by
  simp [AllNumeral, or_imp, forall_and]

theorem allNumeral_ofNat (n : Nat) : AllNumeral (ofNat n) := by
  intro c hc
  have hdigit : c.isDigit = true := Nat.isDigit_of_mem_toDigits (by decide) (by decide) hc
  rw [isNumeral, hdigit, Bool.true_or]

theorem allNumeral_ofInt (i : Int) : AllNumeral (ofInt i) := by
  have hminus : isNumeral '-' = true := by decide
  rw [ofInt]
  split <;> simp [allNumeral_ofNat, hminus]

theorem allNumeral_text (style : PointStyle) (x : Binary64) : AllNumeral (text style x) := by
  have hminus : isNumeral '-' = true := by decide
  have hplus : isNumeral '+' = true := by decide
  have hpoint : isNumeral '.' = true := by decide
  have hpower : isNumeral 'e' = true := by decide
  have hzero : isNumeral '0' = true := by decide
  have hzeros (n : Nat) : AllNumeral (List.replicate n '0') := by
    intro c hc
    rwa [List.eq_of_mem_replicate hc]
  simp only [text]
  generalize shortest x = found
  have hdigits := allNumeral_ofNat found.digits
  generalize ofNat found.digits = digits at hdigits
  generalize found.power + digits.length - 1 = k
  have hsign (magnitude : List Char) (h : AllNumeral magnitude) :
      AllNumeral (if x.negative then '-' :: magnitude else magnitude) := by
    split <;> simp [h, hminus]
  apply hsign
  split
  · have hhead : AllNumeral (digits.take 1) := fun c hc => hdigits c (List.mem_of_mem_take hc)
    have hrest : AllNumeral digits.tail := fun c hc => hdigits c (List.mem_of_mem_tail hc)
    rw [List.splitAt_eq]
    split <;> split <;> simp [hhead, hrest, hpoint, hpower, hminus, hplus, allNumeral_ofNat]
  · split
    · simp [hdigits, hzero, hpoint, hzeros]
    · have hpadded (n : Nat) : AllNumeral (digits ++ List.replicate n '0') := by
        simp [hdigits, hzeros]
      have hwhole (n m : Nat) : AllNumeral ((digits ++ List.replicate n '0').take m) :=
        fun c hc => hpadded n c (List.mem_of_mem_take hc)
      have hfraction (n m : Nat) : AllNumeral ((digits ++ List.replicate n '0').drop m) :=
        fun c hc => hpadded n c (List.mem_of_mem_drop hc)
      split <;> simp [hwhole, hfraction, hpoint, hzero]

theorem ofInt_ne_nil (i : Int) : ofInt i ≠ [] := by
  rw [ofInt]
  split
  · exact List.cons_ne_nil _ _
  · exact Nat.toDigits_ne_nil

theorem text_ne_nil (style : PointStyle) (x : Binary64) : text style x ≠ [] := by
  simp only [text]
  split
  · exact List.cons_ne_nil _ _
  · split
    · simp
    · split <;> simp

theorem le_of_isNumeral {c : Char} (h : isNumeral c = true) : 0x20 ≤ c.toNat := by
  simp only [isNumeral, Bool.or_eq_true, Char.isDigit, Bool.and_eq_true, decide_eq_true_eq,
    List.contains_iff_mem, List.mem_cons, List.not_mem_nil, or_false] at h
  rcases h with ⟨hdigit, -⟩ | rfl | rfl | rfl | rfl
  · exact Nat.le_trans (by decide) (UInt32.le_iff_toNat_le.mp hdigit)
  all_goals decide

end Decimal

namespace Json

/-- Text without control characters. -/
def Visible (text : List Char) : Prop :=
  ∀ c ∈ text, 0x20 ≤ c.toNat

instance (text : List Char) : Decidable (Visible text) :=
  List.decidableBAll (fun c : Char => 0x20 ≤ c.toNat) text

@[simp] theorem visible_nil : Visible [] := by
  simp [Visible]

@[simp] theorem visible_cons {c : Char} {text : List Char} :
    Visible (c :: text) ↔ 0x20 ≤ c.toNat ∧ Visible text := by
  simp [Visible]

@[simp] theorem visible_append {front back : List Char} :
    Visible (front ++ back) ↔ Visible front ∧ Visible back := by
  simp [Visible, or_imp, forall_and]

theorem visible_escapeChar (c : Char) : Visible (escapeChar c) := by
  unfold escapeChar
  split
  case h_8 =>
    split
    · have hdigit : ∀ d < 16, 0x20 ≤ (hexDigit d).toNat := by decide
      have hhigh := hdigit (c.toNat / 16) (by omega)
      have hlow := hdigit (c.toNat % 16) (by omega)
      simp [hhigh, hlow]
    · rename_i hle
      exact List.forall_mem_singleton.mpr (by omega)
  all_goals decide

theorem visible_stringText (s : String) : Visible (stringText s) := by
  have hescaped : Visible (s.toList.flatMap escapeChar) := by
    intro c hc
    obtain ⟨d, -, hc⟩ := List.mem_flatMap.mp hc
    exact visible_escapeChar d c hc
  simp [stringText, hescaped]

theorem visible_numberText (number : Number) : Visible (numberText number) := by
  intro c hc
  cases number with
  | integer value => exact Decimal.le_of_isNumeral (Decimal.allNumeral_ofInt value c hc)
  | float value => exact Decimal.le_of_isNumeral (Decimal.allNumeral_text .data value c hc)

mutual

theorem visible_compact : ∀ value : Json, Visible (compact value)
  | .null => by decide
  | .boolean value => by cases value <;> decide
  | .number value => visible_numberText value
  | .string value => visible_stringText value
  | .array [] => by decide
  | .array (item :: rest) => by
    have hitem := visible_compact item
    have hrest := visible_compactItems rest
    simp [compact, hitem, hrest]
  | .object [] => by decide
  | .object ((name, value) :: rest) => by
    have hname := visible_stringText name
    have hvalue := visible_compact value
    have hrest := visible_compactMembers rest
    simp [compact, hname, hvalue, hrest]

theorem visible_compactItems : ∀ items : List Json, Visible (compactItems items)
  | [] => by decide
  | item :: rest => by
    have hitem := visible_compact item
    have hrest := visible_compactItems rest
    simp [compactItems, hitem, hrest]

theorem visible_compactMembers :
    ∀ members : List (String × Json), Visible (compactMembers members)
  | [] => by decide
  | (name, value) :: rest => by
    have hname := visible_stringText name
    have hvalue := visible_compact value
    have hrest := visible_compactMembers rest
    simp [compactMembers, hname, hvalue, hrest]

end

theorem newline_not_mem_text (value : Json) : '\n' ∉ value.text.toList := by
  intro h
  have hvisible := visible_compact value '\n' (by simpa [text] using h)
  exact absurd hvisible (by decide)

end Json

end Stimulus
