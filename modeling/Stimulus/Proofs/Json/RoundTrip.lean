import Mathlib.Data.List.TakeDrop
import Stimulus.Json.Printer
import Stimulus.Json.Reader
import Stimulus.Proofs.Keyed
import Stimulus.Proofs.Result

/-! Values that are written and read again.  The reader is followed along the text that the printer
makes: on the text of a value, with the closing bracket or a comma behind it, it stops where the
text ends and has the value.  This holds for values whose whole numbers are in range, whose objects
are in order, and which do not nest too deep. -/

namespace Stimulus

/-! ### Digits -/

namespace Decimal

theorem digit?_of_isDigit {c : Char} (h : c.isDigit = true) :
    digit? 10 c = some (c.toNat - '0'.toNat) := by
  have hbounds : '0' ≤ c ∧ c ≤ '9' := by
    simpa [Char.isDigit, Char.le_def] using h
  have hvalue : c.toNat - '0'.toNat < 10 := by
    have hupper : c.toNat ≤ '9'.toNat := hbounds.2
    have hlast : '9'.toNat = '0'.toNat + 9 := rfl
    omega
  rw [digit?, digitValue?, if_pos hbounds, Option.filter_some, if_pos (by simpa using hvalue)]

theorem isDigit_of_mem_ofNat {n : Nat} {c : Char} (h : c ∈ ofNat n) : c.isDigit = true :=
  Nat.isDigit_of_mem_toDigits (by decide) (by decide) h

theorem spanDigits_append {digits rest : List Char} (hdigits : ∀ c ∈ digits, c.isDigit = true)
    (hrest : ∀ c ∈ rest.head?, c.isDigit = false) :
    spanDigits (digits ++ rest) = (digits, rest) := by
  have hnone : rest.takeWhile Char.isDigit = [] ∧ rest.dropWhile Char.isDigit = rest := by
    cases rest with
    | nil => exact ⟨rfl, rfl⟩
    | cons c rest =>
      have hc := hrest c rfl
      simp [hc]
  rw [spanDigits, List.span_eq_takeWhile_dropWhile, List.takeWhile_append_of_pos hdigits,
    List.dropWhile_append_of_pos hdigits, hnone.1, hnone.2, List.append_nil]

theorem eq_zero_of_head?_ofNat {n : Nat} (h : (ofNat n).head? = some '0') : n = 0 := by
  induction n using Nat.strongRecOn with
  | ind n ih =>
    rw [ofNat, Nat.toDigits_eq_if (by decide)] at h
    split at h
    · rename_i hn
      have hdigit : ∀ d < 10, Nat.digitChar d = '0' → d = 0 := by decide
      exact hdigit n hn (Option.some.inj h)
    · rename_i hn
      rw [List.head?_append_of_ne_nil _ Nat.toDigits_ne_nil] at h
      have hzero := ih (n / 10) (by omega) h
      omega

theorem exists_cons_ofNat (n : Nat) : ∃ c rest, ofNat n = c :: rest ∧ c.isDigit = true := by
  obtain ⟨c, rest, h⟩ := List.exists_cons_of_ne_nil (Nat.toDigits_ne_nil (n := n) (b := 10))
  refine ⟨c, rest, h, isDigit_of_mem_ofNat (n := n) ?_⟩
  rw [ofNat, h]
  exact .head _

theorem ofNat_ne_zero_cons (n : Nat) (c : Char) (rest : List Char) :
    ofNat n ≠ '0' :: c :: rest := by
  intro h
  obtain rfl : n = 0 := eq_zero_of_head?_ofNat (by rw [h]; rfl)
  cases h

end Decimal

namespace Json

/-! ### Numbers -/

/-- The characters that can stand behind a value in an array or object. -/
def Follows (rest : List Char) : Prop :=
  ∀ c ∈ rest.head?, c = ',' ∨ c = ']' ∨ c = '}'

theorem absorb_eq {digits : List Char} {significand : Nat}
    (hdigits : ∀ c ∈ digits, c.isDigit = true)
    (hfits : Nat.ofDigitChars 10 digits significand ≤ greatestInteger) :
    absorb significand digits = (Nat.ofDigitChars 10 digits significand, digits.length) := by
  induction digits generalizing significand with
  | nil => rfl
  | cons c rest ih =>
    have hvalue := Decimal.digit?_of_isDigit (hdigits c (.head _))
    have hrest : ∀ c ∈ rest, c.isDigit = true := fun c hc => hdigits c (.tail _ hc)
    rw [Nat.ofDigitChars_cons] at hfits ⊢
    have hgrows (n : Nat) (text : List Char) : n ≤ Nat.ofDigitChars 10 text n := by
      induction text generalizing n with
      | nil => exact Nat.le_refl n
      | cons d text ih =>
        rw [Nat.ofDigitChars_cons]
        have := ih (10 * n + (d.toNat - '0'.toNat))
        omega
    have hnext : significand * 10 + (c.toNat - '0'.toNat) =
        10 * significand + (c.toNat - '0'.toNat) := by omega
    have hle := hgrows (10 * significand + (c.toNat - '0'.toNat)) rest
    rw [absorb, hvalue, Option.getD_some, hnext, if_neg (by omega), ih hrest hfits]
    rfl

theorem Follows.ne {rest : List Char} (h : Follows rest) {c : Char} (hc : c ∈ rest.head?) :
    c.isDigit = false ∧ c ≠ '.' ∧ c ≠ 'e' ∧ c ≠ 'E' := by
  rcases h c hc with rfl | rfl | rfl <;> decide

theorem readMagnitude_ofNat {n : Nat} (hn : n ≤ greatestInteger) (negative : Bool)
    {rest : List Char} (hrest : Follows rest) :
    readMagnitude negative (Decimal.ofNat n ++ rest) =
      (ofWhole negative n 0).map fun number => (number, rest) := by
  have hspan := Decimal.spanDigits_append (fun c => Decimal.isDigit_of_mem_ofNat (n := n))
    fun c hc => (hrest.ne hc).1
  have hvalue : Nat.ofDigitChars 10 (Decimal.ofNat n) 0 = n := Nat.ofDigitChars_ten_toDigits
  have habsorb : absorb 0 (Decimal.ofNat n) = (n, (Decimal.ofNat n).length) := by
    rw [absorb_eq (fun c => Decimal.isDigit_of_mem_ofNat) (by rwa [hvalue]), hvalue]
  have hfraction : readFraction rest = .ok (none, rest) := by
    unfold readFraction
    split
    · exact absurd rfl (hrest.ne rfl).2.1
    · rfl
  have hexponent : readExponent rest = .ok (none, rest) := by
    unfold readExponent
    split
    · rename_i c _
      obtain ⟨-, -, he, hE⟩ := hrest.ne (c := c) rfl
      rw [if_neg (by simp [he, hE])]
    · rfl
  rw [readMagnitude, hspan]
  dsimp only
  split
  · rename_i heq
    exact absurd heq Nat.toDigits_ne_nil
  · rename_i heq
    exact absurd heq (Decimal.ofNat_ne_zero_cons n _ _)
  · simp only [habsorb, Nat.sub_self, hfraction, hexponent, bind, Except.bind]
    cases ofWhole negative n 0 <;> rfl

theorem readNumber_ofInt {i : Int} (hlower : -0x8000000000000000 ≤ i)
    (hupper : i ≤ 0xFFFFFFFFFFFFFFFF) {rest : List Char} (hrest : Follows rest) :
    readNumber (Decimal.ofInt i ++ rest) = .ok (.integer i, rest) := by
  rw [Decimal.ofInt]
  split
  · have hn : i.natAbs ≤ greatestInteger := by
      rw [greatestInteger]
      omega
    rw [List.cons_append, readNumber, readMagnitude_ofNat hn true hrest, ofWhole,
      if_neg (by simp), if_neg (by simp), if_neg (by omega)]
    have hvalue : -(i.natAbs : Int) = i := by omega
    rw [hvalue]
    rfl
  · have hn : i.natAbs ≤ greatestInteger := by
      rw [greatestInteger]
      omega
    have hsign (tail : List Char) : Decimal.ofNat i.natAbs ++ rest ≠ '-' :: tail := by
      intro h
      obtain ⟨c, digits, hdigits, hc⟩ := Decimal.exists_cons_ofNat i.natAbs
      rw [hdigits] at h
      obtain ⟨rfl, -⟩ := List.cons.inj h
      exact absurd hc (by decide)
    unfold readNumber
    split
    · rename_i heq
      exact absurd heq (hsign _)
    · rw [readMagnitude_ofNat hn false hrest, ofWhole, if_neg (by simp), if_pos (by simp)]
      have hvalue : (i.natAbs : Int) = i := by omega
      rw [hvalue]
      rfl

/-! ### Strings -/

theorem hex4?_hexDigit {n : Nat} (h : n < 0x20) :
    hex4? '0' '0' (hexDigit (n / 16)) (hexDigit (n % 16)) = some n := by
  have hall : ∀ n < 0x20, hex4? '0' '0' (hexDigit (n / 16)) (hexDigit (n % 16)) = some n := by
    decide
  exact hall n h

/-- A character behind which a string goes on. -/
def prepend (c : Char) (read : List Char × List Char) : List Char × List Char :=
  (c :: read.1, read.2)

theorem readString_backslash {letter c : Char} (h : unescape? letter = some c) (text : List Char) :
    readString ('\\' :: letter :: text) = (readString text).map (prepend c) := by
  rw [readString, h]
  · cases readString text <;> rfl
  · rintro _ _ _ _ _ rfl -
    cases h

theorem readString_control {c : Char} (h : c.toNat < 0x20) (text : List Char) :
    readString ('\\' :: 'u' :: '0' :: '0' :: hexDigit (c.toNat / 16) :: hexDigit (c.toNat % 16) ::
      text) = (readString text).map (prepend c) := by
  have hhigh : isHighSurrogate c.toNat = false := by
    simp [isHighSurrogate]
    omega
  have hlow : isLowSurrogate c.toNat = false := by
    simp [isLowSurrogate]
    omega
  rw [readString, hex4?_hexDigit h, Option.bind_eq_bind, Option.bind_some, hhigh, hlow,
    Char.ofNat_toNat]
  cases readString text <;> rfl

theorem readString_visible {c : Char} (hquote : c ≠ '"') (hbackslash : c ≠ '\\')
    (hvisible : ¬c.toNat < 0x20) (text : List Char) :
    readString (c :: text) = (readString text).map (prepend c) := by
  rw [readString, if_neg (by simp [hbackslash, hvisible])]
  · cases readString text <;> rfl
  · exact hquote
  · rintro _ _ _ _ _ rfl
    exact absurd rfl hbackslash
  · rintro _ _ rfl
    exact absurd rfl hbackslash

theorem readString_escapeChar (c : Char) (text : List Char) :
    readString (escapeChar c ++ text) = (readString text).map (prepend c) := by
  unfold escapeChar
  split
  case h_8 hquote hbackslash _ _ _ _ _ =>
    split
    · rename_i hcontrol
      exact readString_control hcontrol text
    · rename_i hvisible
      exact readString_visible hquote hbackslash hvisible text
  all_goals exact readString_backslash rfl text

theorem readString_stringText (s : List Char) (rest : List Char) :
    readString (s.flatMap escapeChar ++ '"' :: rest) = some (s, rest) := by
  induction s with
  | nil => rfl
  | cons c s ih =>
    rw [List.flatMap_cons, List.append_assoc, readString_escapeChar, ih]
    rfl

/-! ### Values -/

/-- A value that its text gives back: its whole numbers are in range, its objects in order, and at
most `depth` levels of arrays and objects nest. -/
inductive Portable : Nat → Json → Prop
  | null {depth : Nat} : Portable depth .null
  | boolean {depth : Nat} (value : Bool) : Portable depth (.boolean value)
  | integer {depth : Nat} {value : Int} (lower : -0x8000000000000000 ≤ value)
      (upper : value ≤ 0xFFFFFFFFFFFFFFFF) : Portable depth (.number (.integer value))
  | string {depth : Nat} (value : String) : Portable depth (.string value)
  | array {depth : Nat} {items : List Json} (inside : ∀ item ∈ items, Portable depth item) :
      Portable (depth + 1) (.array items)
  | object {depth : Nat} {members : List (String × Json)} (sorted : Keyed.Sorted members)
      (inside : ∀ member ∈ members, Portable depth member.2) :
      Portable (depth + 1) (.object members)

/-- On the text of the value the reader stops where the text ends, and has the value. -/
def Reads (depth : Nat) (value : Json) : Prop :=
  ∀ fuel rest, 2 * (compact value).length ≤ fuel → Follows rest →
    readValue fuel depth (compact value ++ rest) = .ok (value, rest)

section

variable {depth fuel : Nat} {rest : List Char}

theorem skipSpace_cons {c : Char} (h : isSpace c = false) (text : List Char) :
    skipSpace (c :: text) = c :: text := by
  rw [skipSpace, List.dropWhile_cons, if_neg (by simp [h])]

theorem exists_cons_ofInt (i : Int) :
    ∃ c text, Decimal.ofInt i = c :: text ∧ (c = '-' ∨ c.isDigit = true) := by
  rw [Decimal.ofInt]
  split
  · exact ⟨_, _, rfl, .inl rfl⟩
  · obtain ⟨c, text, h, hc⟩ := Decimal.exists_cons_ofNat i.natAbs
    exact ⟨c, text, h, .inr hc⟩

theorem isSpace_eq_false {c : Char} (h : c = '-' ∨ c.isDigit = true) : isSpace c = false := by
  by_contra hspace
  simp only [isSpace, Bool.not_eq_false, Bool.or_eq_true, beq_iff_eq] at hspace
  rcases hspace with ((rfl | rfl) | rfl) | rfl <;> exact absurd h (by decide)

theorem readValue_number {c : Char} (hc : c = '-' ∨ c.isDigit = true) (text : List Char) :
    readValue (fuel + 1) depth (c :: text) =
      (readNumber (c :: text)).map fun read => (.number read.1, read.2) := by
  rw [readValue, skipSpace_cons (isSpace_eq_false hc)]
  split
  case h_7 => cases readNumber (c :: text) <;> rfl
  all_goals
    rename_i heq
    obtain ⟨rfl, -⟩ := List.cons.inj heq
    exact absurd hc (by decide)

/-- The text of a value starts neither with a blank nor with a closing bracket. -/
theorem Portable.exists_cons {value : Json} (h : Portable depth value) :
    ∃ c text, compact value = c :: text ∧ isSpace c = false ∧ c ≠ ']' := by
  cases h with
  | null => exact ⟨_, _, rfl, rfl, by decide⟩
  | boolean value => cases value <;> exact ⟨_, _, rfl, rfl, by decide⟩
  | @integer _ value _ _ =>
    obtain ⟨c, text, heq, hc⟩ := exists_cons_ofInt value
    refine ⟨c, text, heq, isSpace_eq_false hc, ?_⟩
    rintro rfl
    exact absurd hc (by decide)
  | string value => exact ⟨_, _, rfl, rfl, by decide⟩
  | @array _ items _ => cases items <;> exact ⟨_, _, rfl, rfl, by decide⟩
  | @object _ members _ _ => cases members <;> exact ⟨_, _, rfl, rfl, by decide⟩

theorem follows_compactItems (items : List Json) (rest : List Char) :
    Follows (compactItems items ++ rest) := by
  cases items <;> simp [Follows, compactItems]

theorem follows_compactMembers (members : List (String × Json)) (rest : List Char) :
    Follows (compactMembers members ++ rest) := by
  cases members with
  | nil => simp [Follows, compactMembers]
  | cons member members =>
    obtain ⟨name, value⟩ := member
    simp [Follows, compactMembers]

theorem readItems_compact {first : Json} {items : List Json}
    (hreads : ∀ item ∈ first :: items, Reads depth item)
    (hfuel : 2 * (compact first ++ compactItems items).length ≤ fuel) :
    readItems fuel depth (compact first ++ compactItems items ++ rest) =
      .ok (first :: items, rest) := by
  induction items generalizing first fuel with
  | nil =>
    obtain _ | fuel := fuel
    · simp [compactItems] at hfuel
    · have hfirst := hreads first (.head _) fuel (compactItems [] ++ rest)
        (by simp [compactItems] at hfuel; omega) (follows_compactItems [] rest)
      rw [List.append_assoc, readItems, hfirst]
      rfl
  | cons item items ih =>
    obtain _ | fuel := fuel
    · simp [compactItems] at hfuel
    · have hfirst := hreads first (.head _) fuel (compactItems (item :: items) ++ rest)
        (by simp [compactItems] at hfuel; omega) (follows_compactItems (item :: items) rest)
      have hitems : readItems fuel depth (compact item ++ compactItems items ++ rest) =
          .ok (item :: items, rest) :=
        ih (fun item hitem => hreads item (.tail _ hitem))
          (by simp [compactItems] at hfuel ⊢; omega)
      rw [List.append_assoc, readItems, hfirst, compactItems]
      simp only [bind, Except.bind, List.cons_append, skipSpace_cons (c := ',') rfl, hitems]
      rfl

theorem readMembers_last {name : String} {value : Json}
    (hvalue : readValue fuel depth (compact value ++ '}' :: rest) = .ok (value, '}' :: rest)) :
    readMembers (fuel + 1) depth (stringText name ++ ':' :: compact value ++ '}' :: rest) =
      .ok ([(name, value)], rest) := by
  have hname := readString_stringText name.toList (':' :: (compact value ++ '}' :: rest))
  simp only [stringText, List.cons_append, List.append_assoc, List.nil_append]
  rw [readMembers, skipSpace_cons rfl]
  simp only [hname, skipSpace_cons (c := ':') rfl, skipSpace_cons (c := '}') rfl, hvalue, bind,
    Except.bind, String.ofList_toList]
  rfl

theorem readMembers_more {name : String} {value : Json}
    (hvalue : readValue fuel depth (compact value ++ ',' :: rest) = .ok (value, ',' :: rest)) :
    readMembers (fuel + 1) depth (stringText name ++ ':' :: compact value ++ ',' :: rest) =
      (readMembers fuel depth rest).map fun read => ((name, value) :: read.1, read.2) := by
  have hname := readString_stringText name.toList (':' :: (compact value ++ ',' :: rest))
  simp only [stringText, List.cons_append, List.append_assoc, List.nil_append]
  rw [readMembers, skipSpace_cons rfl]
  simp only [hname, skipSpace_cons (c := ':') rfl, skipSpace_cons (c := ',') rfl, hvalue, bind,
    Except.bind, String.ofList_toList]
  cases readMembers fuel depth rest <;> rfl

theorem readMembers_compact {name : String} {first : Json} {members : List (String × Json)}
    (hreads : ∀ member ∈ (name, first) :: members, Reads depth member.2)
    (hfuel :
      2 * (stringText name ++ ':' :: compact first ++ compactMembers members).length ≤ fuel) :
    readMembers fuel depth
        (stringText name ++ ':' :: compact first ++ (compactMembers members ++ rest)) =
      .ok ((name, first) :: members, rest) := by
  induction members generalizing name first fuel with
  | nil =>
    obtain _ | fuel := fuel
    · simp at hfuel
    · have hfirst := hreads (name, first) (.head _) fuel (compactMembers [] ++ rest)
        (by simp [compactMembers] at hfuel ⊢; omega) (follows_compactMembers [] rest)
      exact readMembers_last hfirst
  | cons member members ih =>
    obtain ⟨other, value⟩ := member
    obtain _ | fuel := fuel
    · simp at hfuel
    · have hfirst := hreads (name, first) (.head _) fuel
        (compactMembers ((other, value) :: members) ++ rest)
        (by simp [compactMembers] at hfuel ⊢; omega) (follows_compactMembers _ rest)
      have hmembers : readMembers fuel depth
          (stringText other ++ ':' :: compact value ++ (compactMembers members ++ rest)) =
            .ok ((other, value) :: members, rest) :=
        ih (fun member hmember => hreads member (.tail _ hmember))
          (by simp [compactMembers] at hfuel ⊢; omega)
      have htext : compactMembers ((other, value) :: members) ++ rest =
          ',' ::
            (stringText other ++ ':' :: compact value ++ (compactMembers members ++ rest)) := by
        simp [compactMembers]
      rw [htext] at hfirst ⊢
      rw [readMembers_more hfirst, hmembers]
      rfl

theorem Portable.reads {value : Json} (h : Portable depth value) : Reads depth value := by
  induction h with
  | null =>
    rintro (_ | fuel) rest hfuel -
    · simp [compact] at hfuel
    · rfl
  | boolean value =>
    rintro (_ | fuel) rest hfuel -
    · cases value <;> simp [compact, booleanText] at hfuel
    · cases value <;> rfl
  | @integer depth value lower upper =>
    rintro (_ | fuel) rest hfuel hrest
    · obtain ⟨c, text, heq, -⟩ := exists_cons_ofInt value
      simp [compact, numberText, heq] at hfuel
    · obtain ⟨c, text, heq, hc⟩ := exists_cons_ofInt value
      have hnumber := readNumber_ofInt lower upper hrest
      rw [compact, numberText]
      rw [heq, List.cons_append] at hnumber ⊢
      rw [readValue_number hc, hnumber]
      rfl
  | string value =>
    rintro (_ | fuel) rest hfuel -
    · simp [compact, stringText] at hfuel
    · have hstring := readString_stringText value.toList rest
      simp only [compact, stringText, List.cons_append, List.append_assoc, List.nil_append]
      rw [readValue, skipSpace_cons rfl]
      simp only [hstring, String.ofList_toList]
  | @array depth items inside ih =>
    rintro (_ | fuel) rest hfuel -
    · cases items <;> simp [compact] at hfuel
    · cases items with
      | nil => rfl
      | cons first items =>
        have hitems : readItems fuel depth (compact first ++ compactItems items ++ rest) =
            .ok (first :: items, rest) :=
          readItems_compact ih (by simp [compact] at hfuel ⊢; omega)
        obtain ⟨c, text, heq, hspace, hclose⟩ := (inside first (.head _)).exists_cons
        rw [compact]
        simp only [heq, List.cons_append] at hitems ⊢
        rw [readValue, skipSpace_cons rfl]
        simp only [skipSpace_cons hspace]
        split
        · rename_i heq'
          exact absurd (List.cons.inj heq').1 hclose
        · rw [hitems]
          rfl
  | @object depth members sorted inside ih =>
    rintro (_ | fuel) rest hfuel -
    · cases members <;> simp [compact] at hfuel
    · cases members with
      | nil => rfl
      | cons member members =>
        obtain ⟨name, first⟩ := member
        have hmembers : readMembers fuel depth
            (stringText name ++ ':' :: compact first ++ (compactMembers members ++ rest)) =
              .ok ((name, first) :: members, rest) :=
          readMembers_compact ih (by simp [compact] at hfuel ⊢; omega)
        rw [compact, List.append_assoc, List.cons_append, List.cons_append, readValue,
          skipSpace_cons rfl]
        simp only [stringText, List.cons_append] at hmembers ⊢
        simp only [skipSpace_cons (c := '"') rfl]
        split
        · rename_i heq
          exact absurd (List.cons.inj heq).1 (by decide)
        · rw [hmembers]
          simp only [bind, Except.bind, ofMembers, Keyed.ofList_eq_self sorted]
          rfl

end

/-- Reading gives a value that was written back. -/
theorem Portable.parse_text {value : Json} (h : Portable greatestDepth value) :
    parse value.text = .ok value := by
  have hread := h.reads (2 * (compact value).length + 2) [] (by omega) (by simp [Follows])
  rw [List.append_nil] at hread
  simp only [parse, text, String.toList_ofList, hread, bind, Except.bind]
  rfl

end Json

end Stimulus
