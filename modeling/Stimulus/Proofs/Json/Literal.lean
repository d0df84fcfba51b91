import Stimulus.Json.Reader
import Stimulus.Proofs.Decimal.Rounding

/-! Numbers as a JSON text writes them, and which of them are in range.  The digits are taken as a
whole number of 64 bits, as many as fit, and a power of ten; each of the two is rounded to a floating
point number, and their product or quotient is rounded again.  So a number can be out of range that
lies below the greatest one, and `Literal.InRange` says exactly which are in. -/

namespace Stimulus.Json

open Decimal (Binary64)

def Digits (text : List Char) : Prop :=
  text ≠ [] ∧ ∀ c ∈ text, c.isDigit = true

structure Exponent where
  marker : Char
  sign : List Char
  digits : List Char

namespace Exponent

def text (exponent : Exponent) : List Char :=
  exponent.marker :: (exponent.sign ++ exponent.digits)

structure Proper (exponent : Exponent) : Prop where
  marker : exponent.marker = 'e' ∨ exponent.marker = 'E'
  sign : exponent.sign = [] ∨ exponent.sign = ['+'] ∨ exponent.sign = ['-']
  digits : Digits exponent.digits

/-- Whether it is negative, and its value without the sign. -/
def value (exponent : Exponent) : Bool × Nat :=
  (exponent.sign == ['-'], Decimal.value exponent.digits)

def power (exponent : Exponent) : Int :=
  if exponent.value.1 then -(exponent.value.2 : Int) else exponent.value.2

end Exponent

/-- A number as it is written. -/
structure Literal where
  negative : Bool
  whole : List Char
  fraction : Option (List Char)
  exponent : Option Exponent

/-- A significand and a power of ten stay in range: the power is at most `10 ^ 308`, and if it is not
below one, the two have a product below the limit, each of them rounded. -/
structure Bounded (significand : Nat) (power : Int) : Prop where
  power_le : power ≤ 308
  product_lt : 0 ≤ power →
    Binary64.nearest significand * Binary64.nearest (10 ^ power.toNat) < Binary64.limit

namespace Literal

def fractionText (fraction : Option (List Char)) : List Char :=
  fraction.elim [] ('.' :: ·)

def exponentText (exponent : Option Exponent) : List Char :=
  exponent.elim [] Exponent.text

def text (literal : Literal) : List Char :=
  (if literal.negative then ['-'] else []) ++
    (literal.whole ++ (fractionText literal.fraction ++ exponentText literal.exponent))

/-- The whole part has no leading zero, and a point or an exponent mark has digits behind it. -/
structure Proper (literal : Literal) : Prop where
  whole : Digits literal.whole
  noLeadingZero : ∀ c rest, literal.whole ≠ '0' :: c :: rest
  fraction : ∀ digits ∈ literal.fraction, Digits digits
  exponent : ∀ exponent ∈ literal.exponent, exponent.Proper

/-- The number of a literal, unless it is out of range: whole if it has neither a fraction nor an
exponent, and then as many of its digits are taken as a significand can hold. -/
def value (literal : Literal) : Except Fault Number :=
  let (significand, count) := absorb 0 literal.whole
  let overflow := literal.whole.length - count
  match literal.fraction, literal.exponent with
  | none, none => ofWhole literal.negative significand overflow
  | fraction, exponent =>
    let (significand, count) := absorb significand (fraction.getD [])
    ofFloating literal.negative significand ((overflow : Int) - count)
      (exponent.map Exponent.value)

/-- The digits that are taken, as a whole number: those of the whole part while 64 bits hold them, and
behind these the digits of the fraction while they fit. -/
def significand (literal : Literal) : Nat :=
  (absorb (absorb 0 literal.whole).1 (literal.fraction.getD [])).1

/-- How many digits of the whole part are left out. -/
def overflow (literal : Literal) : Nat :=
  literal.whole.length - (absorb 0 literal.whole).2

/-- The place of the last digit that is taken, as a power of ten. -/
def place (literal : Literal) : Int :=
  literal.overflow - (absorb (absorb 0 literal.whole).1 (literal.fraction.getD [])).2

/-- The power of ten behind the digits that are taken. -/
def power (literal : Literal) : Int :=
  literal.place + literal.exponent.elim 0 Exponent.power

/-- The literals that have a number: no digit but zeros is taken; or the exponent is negative and
beyond 31 bits, which makes zero of any digits; or it is not beyond them, and the digits and the power
of ten behind them stay in range. -/
inductive InRange (literal : Literal) : Prop
  | zero (significand : literal.significand = 0)
  | vanishing {exponent : Exponent} (present : literal.exponent = some exponent)
      (negative : exponent.value.1 = true) (beyond : greatestPower < exponent.value.2)
  | bounded (within : ∀ exponent ∈ literal.exponent, exponent.value.2 ≤ greatestPower)
      (bounded : Bounded literal.significand literal.power)

end Literal

/-! ### Digits and powers of ten -/

theorem absorb_le {significand : Nat} (h : significand ≤ greatestInteger) (digits : List Char) :
    (absorb significand digits).1 ≤ greatestInteger := by
  induction digits generalizing significand with
  | nil => exact h
  | cons c digits ih =>
    rw [absorb]
    split
    case isTrue => exact h
    case isFalse hfits => exact ih (not_lt.mp hfits)

theorem greatestInteger_lt_limit : greatestInteger < Binary64.limit := by decide +kernel

theorem pow_lt_limit {k : Nat} (hk : k ≤ 308) : 10 ^ k < Binary64.limit :=
  (Nat.pow_le_pow_right (by decide) hk).trans_lt (by decide +kernel)

theorem powerOfTen_eq {k : Nat} (hk : k ≤ 308) :
    powerOfTen k = (Binary64.ofNat (10 ^ k)).getD default := by
  have hdigits : (Nat.toDigits 10 1).length = 1 := rfl
  rw [powerOfTen, Binary64.ofDecimal, hdigits, if_neg (by omega), if_neg (by omega), Binary64.scale,
    if_pos (Int.natCast_nonneg k), Int.toNat_natCast, Nat.one_mul]
  rfl

theorem magnitude_powerOfTen {k : Nat} (hk : k ≤ 308) :
    (powerOfTen k).magnitude = Binary64.nearest (10 ^ k) := by
  obtain ⟨x, hx, hmagnitude, -⟩ := Binary64.exists_ofNat (pow_lt_limit hk)
  rw [powerOfTen_eq hk, hx, Option.getD_some, hmagnitude]

theorem one_le_magnitude_powerOfTen {k : Nat} (hk : k ≤ 308) : 1 ≤ (powerOfTen k).magnitude := by
  rw [magnitude_powerOfTen hk]
  exact_mod_cast Binary64.nearest_pos (Nat.pow_pos (by decide)).ne'

/-! ### Products and quotients -/

theorem exists_shiftDecimal_of_neg (fuel : Nat) {x : Binary64} {power : Int} (hpower : power < 0)
    (hx : x.magnitude < Binary64.limit) : ∃ y, shiftDecimal fuel x power = some y := by
  induction fuel generalizing x power with
  | zero => exact ⟨x, rfl⟩
  | succ fuel ih =>
    rw [shiftDecimal]
    split
    case isTrue hle =>
      obtain ⟨y, hy, -⟩ := Binary64.exists_div hx (one_le_magnitude_powerOfTen hle)
      exact ⟨y, by rw [if_neg (not_le.mpr hpower), hy]⟩
    case isFalse hgt =>
      split
      case isTrue => exact ⟨x, rfl⟩
      case isFalse =>
        obtain ⟨y, hy, hlt⟩ := Binary64.exists_div hx (one_le_magnitude_powerOfTen le_rfl)
        rw [if_neg (not_le.mpr hpower), hy]
        exact ih (by omega) hlt

theorem exists_shiftDecimal_iff {fuel : Nat} {x : Binary64} {power : Int}
    (hx : x.magnitude < Binary64.limit) :
    (∃ y, shiftDecimal (fuel + 1) x power = some y) ↔ x.significand = 0 ∨ power ≤ 308 ∧
      (0 ≤ power → x.magnitude * Binary64.nearest (10 ^ power.toNat) < Binary64.limit) := by
  rcases lt_or_ge power 0 with hneg | hnonneg
  · exact iff_of_true (exists_shiftDecimal_of_neg _ hneg hx) (.inr ⟨by omega, fun h => by omega⟩)
  · obtain ⟨k, rfl⟩ := Int.eq_ofNat_of_zero_le hnonneg
    rw [shiftDecimal, Int.natAbs_natCast, Int.toNat_natCast]
    simp only [if_pos hnonneg]
    split
    case isTrue hk =>
      rw [← Option.ne_none_iff_exists', ne_eq, Binary64.mul_eq_none_iff, not_le,
        magnitude_powerOfTen hk, ← Binary64.magnitude_eq_zero_iff]
      constructor
      · intro hlt
        exact .inr ⟨by omega, fun _ => hlt⟩
      · rintro (hzero | ⟨-, hlt⟩)
        · rw [hzero, zero_mul]
          exact Binary64.limit_pos
        · exact hlt hnonneg
    case isFalse hk =>
      split
      case isTrue hzero => exact iff_of_true ⟨x, rfl⟩ (.inl hzero)
      case isFalse hpos =>
        refine iff_of_false ?_ ?_
        · rintro ⟨y, hy⟩
          cases hy
        · rintro (hzero | ⟨hle, -⟩)
          · exact hpos hzero
          · omega

theorem exists_ofParts_iff {negative : Bool} {significand : Nat} {power : Int}
    (hs : significand ≤ greatestInteger) :
    (∃ n, ofParts negative significand power = .ok n) ↔
      significand = 0 ∨ Bounded significand power := by
  obtain ⟨x, hx, hmagnitude, hlt⟩ :=
    Binary64.exists_ofNat (hs.trans_lt greatestInteger_lt_limit)
  have hzero : x.significand = 0 ↔ significand = 0 := by
    rw [← Binary64.magnitude_eq_zero_iff, hmagnitude, Nat.cast_eq_zero,
      Binary64.nearest_eq_zero_iff]
  have hparts : (∃ n, ofParts negative significand power = .ok n) ↔
      ∃ y, shiftDecimal 4 x power = some y := by
    rw [ofParts, hx, Option.bind_some]
    cases shiftDecimal 4 x power with
    | none => exact iff_of_false (by rintro ⟨_, ⟨⟩⟩) (by rintro ⟨_, ⟨⟩⟩)
    | some y => exact iff_of_true ⟨_, rfl⟩ ⟨y, rfl⟩
  have hbounded : Bounded significand power ↔ power ≤ 308 ∧
      (0 ≤ power → x.magnitude * Binary64.nearest (10 ^ power.toNat) < Binary64.limit) := by
    rw [hmagnitude]
    norm_cast
    exact ⟨fun h => ⟨h.power_le, h.product_lt⟩, fun h => ⟨h.1, h.2⟩⟩
  rw [hparts, exists_shiftDecimal_iff hlt, hzero, hbounded]

theorem exists_ofParts_zero {negative : Bool} {significand : Nat}
    (hs : significand ≤ greatestInteger) : ∃ n, ofParts negative significand 0 = .ok n := by
  refine (exists_ofParts_iff hs).mpr (.inr ⟨by decide, fun _ => ?_⟩)
  rw [Int.toNat_zero, Nat.pow_zero, Binary64.nearest_eq_self (by decide : (1 : Nat).log2 ≤ 52),
    Nat.mul_one]
  exact Binary64.nearest_lt_limit (hs.trans_lt greatestInteger_lt_limit)

namespace Literal

variable {literal : Literal}

theorem significand_le (literal : Literal) : literal.significand ≤ greatestInteger :=
  absorb_le (absorb_le (Nat.zero_le _) _) _

theorem value_whole (hfraction : literal.fraction = none) (hexponent : literal.exponent = none) :
    literal.value = ofWhole literal.negative literal.significand literal.overflow := by
  rw [value, significand, hfraction, hexponent]
  rfl

theorem value_floating (h : ¬(literal.fraction = none ∧ literal.exponent = none)) :
    literal.value = ofFloating literal.negative literal.significand literal.place
      (literal.exponent.map Exponent.value) := by
  obtain ⟨negative, whole, fraction, exponent⟩ := literal
  cases fraction <;> cases exponent
  · exact absurd ⟨rfl, rfl⟩ h
  all_goals rfl

theorem inRange_iff (within : ∀ exponent ∈ literal.exponent, exponent.value.2 ≤ greatestPower) :
    literal.InRange ↔ literal.significand = 0 ∨ Bounded literal.significand literal.power := by
  constructor
  · intro h
    cases h with
    | zero hzero => exact .inl hzero
    | vanishing present _ beyond => exact absurd (within _ present) (not_le.mpr beyond)
    | bounded _ hbounded => exact .inr hbounded
  · rintro (hzero | hbounded)
    · exact .zero hzero
    · exact .bounded within hbounded

theorem inRange_iff_of_beyond {exponent : Exponent} (present : literal.exponent = some exponent)
    (beyond : greatestPower < exponent.value.2) :
    literal.InRange ↔ literal.significand = 0 ∨ exponent.value.1 = true := by
  constructor
  · intro h
    cases h with
    | zero hzero => exact .inl hzero
    | vanishing present' negative _ =>
      obtain rfl := Option.some.inj (present.symm.trans present')
      exact .inr negative
    | bounded within => exact absurd (within _ present) (not_le.mpr beyond)
  · rintro (hzero | negative)
    · exact .zero hzero
    · exact .vanishing present negative beyond

theorem exists_value_iff_of_whole (hfraction : literal.fraction = none)
    (hexponent : literal.exponent = none) :
    (∃ n, literal.value = .ok n) ↔ literal.InRange := by
  have hpower : literal.power = literal.overflow := by
    rw [power, place, hfraction, hexponent]
    exact (Int.add_zero _).trans (Int.sub_zero _)
  rw [inRange_iff (by rw [hexponent]; rintro _ ⟨⟩), ← exists_ofParts_iff literal.significand_le,
    value_whole hfraction hexponent, hpower, ofWhole]
  split
  case isTrue => rfl
  case isFalse hnone =>
    rw [not_ne_iff.mp hnone, Int.natCast_zero]
    refine iff_of_true ?_ (exists_ofParts_zero literal.significand_le)
    split
    case isTrue => exact ⟨_, rfl⟩
    case isFalse =>
      split
      case isTrue => exact exists_ofParts_zero literal.significand_le
      case isFalse => exact ⟨_, rfl⟩

theorem exists_value_iff_of_floating (h : ¬(literal.fraction = none ∧ literal.exponent = none)) :
    (∃ n, literal.value = .ok n) ↔ literal.InRange := by
  rw [value_floating h]
  cases hexponent : literal.exponent with
  | none =>
    have hpower : literal.power = literal.place := by
      rw [power, hexponent]
      exact Int.add_zero _
    rw [inRange_iff (by rw [hexponent]; rintro _ ⟨⟩), ← exists_ofParts_iff literal.significand_le,
      hpower]
    rfl
  | some exponent =>
    rw [Option.map_some, ofFloating]
    rcases le_or_gt exponent.value.2 greatestPower with hle | hlt
    · have hpower : literal.power =
          if exponent.value.1 then literal.place - exponent.value.2
          else literal.place + exponent.value.2 := by
        rw [power, hexponent, Option.elim_some, Exponent.power]
        split <;> rfl
      rw [inRange_iff (by rw [hexponent]; rintro _ ⟨⟩; exact hle), hpower]
      simp only [if_neg hle.not_gt]
      exact exists_ofParts_iff literal.significand_le
    · rw [inRange_iff_of_beyond hexponent hlt]
      simp only [if_pos hlt]
      split
      case isTrue hrefused =>
        refine iff_of_false (by rintro ⟨_, ⟨⟩⟩) ?_
        rintro (hzero | hnegative)
        · exact hrefused.1 hzero
        · rw [hnegative] at hrefused
          exact absurd hrefused.2 Bool.false_ne_true
      case isFalse haccepted =>
        refine iff_of_true (exists_ofParts_zero (Nat.zero_le _)) ?_
        by_contra hneither
        rw [not_or, Bool.not_eq_true, ← Bool.not_eq_true'] at hneither
        exact haccepted hneither

/-- A literal has a number exactly if it is in range. -/
theorem exists_value_iff : (∃ n, literal.value = .ok n) ↔ literal.InRange := by
  by_cases h : literal.fraction = none ∧ literal.exponent = none
  · exact exists_value_iff_of_whole h.1 h.2
  · exact exists_value_iff_of_floating h

/-- Digits and power are rounded up here, which takes a number below the greatest one out of range. -/
example : (value ⟨false, ['1'], some "797693134862315708".toList,
    some ⟨'e', [], ['3', '0', '8']⟩⟩).toOption = none := by
  decide +kernel

end Literal

end Stimulus.Json
