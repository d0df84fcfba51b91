/-!
Floating point numbers of 64 bits as exact fractions.  Every operation computes the exact rational
result and rounds it once, to the nearest number and to the even one of two (`roundRatio`), so
nothing here rests on machine arithmetic.
-/

namespace Stimulus.Decimal

/-- The finite number `±significand · 2 ^ exponent`.  Rounding gives a significand below `2 ^ 53`,
and one below `2 ^ 52` only under the least exponent. -/
structure Binary64 where
  negative : Bool
  significand : Nat
  exponent : Int
  deriving DecidableEq

namespace Binary64

def leastExponent : Int := -1074

def greatestExponent : Int := 971

/-- The least significand of a number whose exponent is not the least, `2 ^ 52`. -/
def leastNormal : Nat := 0x10000000000000

/-- The zero of either sign. -/
def zero (negative : Bool) : Binary64 := ⟨negative, 0, leastExponent⟩

instance : Inhabited Binary64 := ⟨zero false⟩

/-- `num / den · base ^ power` as a fraction. -/
def scale (num den base : Nat) (power : Int) : Nat × Nat :=
  if 0 ≤ power then (num * Nat.pow base power.toNat, den)
  else (num, den * Nat.pow base (-power).toNat)

/-- The whole number nearest to `num / den`, the even one of two. -/
def roundHalfEven (num den : Nat) : Nat :=
  let q := num / den
  let r := num % den
  if 2 * r < den then q
  else if den < 2 * r then q + 1
  else if q % 2 = 0 then q else q + 1

/-- The exponent `k` of the power of two with `2 ^ k ≤ num / den < 2 ^ (k + 1)`. -/
def floorLog2 (num den : Nat) : Int :=
  let k : Int := (Nat.log2 num : Int) - Nat.log2 den
  let (n, d) := scale num den 2 (-k)
  if d ≤ n then k else k - 1

/-- The number nearest to `±num / den`; none if that lies beyond the greatest number. -/
def roundRatio (negative : Bool) (num den : Nat) : Option Binary64 :=
  if num = 0 then some (zero negative)
  else
    let exponent := max (floorLog2 num den - 52) leastExponent
    let (n, d) := scale num den 2 (-exponent)
    let q := roundHalfEven n d
    let (q, exponent) := if q = 2 * leastNormal then (leastNormal, exponent + 1) else (q, exponent)
    if greatestExponent < exponent then none else some ⟨negative, q, exponent⟩

/-- The magnitude as a fraction. -/
def ratio (x : Binary64) : Nat × Nat :=
  scale x.significand 1 2 x.exponent

/-- The number nearest to a whole number. -/
def ofNat (n : Nat) : Option Binary64 :=
  roundRatio false n 1

/-- The number nearest to `±digits · 10 ^ power`.  A power that leaves the range whatever the
digits are is not computed. -/
def ofDecimal (negative : Bool) (digits : Nat) (power : Int) : Option Binary64 :=
  let top : Int := power + (Nat.toDigits 10 digits).length
  if digits = 0 ∨ top < -330 then some (zero negative)
  else if 320 < top then none
  else
    let (n, d) := scale digits 1 10 power
    roundRatio negative n d

/-- The rounded product. -/
def mul (x y : Binary64) : Option Binary64 :=
  let (a, b) := x.ratio
  let (c, d) := y.ratio
  roundRatio (x.negative != y.negative) (a * c) (b * d)

/-- The rounded quotient by a divisor other than zero. -/
def div (x y : Binary64) : Option Binary64 :=
  let (a, b) := x.ratio
  let (c, d) := y.ratio
  roundRatio (x.negative != y.negative) (a * d) (b * c)

end Binary64

/-- A floating point number with the values that are no numbers. -/
inductive Extended where
  | finite (x : Binary64)
  | infinite (negative : Bool)
  | notANumber
  deriving DecidableEq

end Stimulus.Decimal
