/-!
Whole numbers as digits.  `ofNat` and `ofInt` write them in base ten, without leading zeros;
`value?` reads the digits of any base up to sixteen.
-/

namespace Stimulus.Decimal

/-- The digits of `n` in base ten. -/
def ofNat (n : Nat) : List Char :=
  Nat.toDigits 10 n

/-- The digits of `i` in base ten, behind a minus sign if it is negative. -/
def ofInt (i : Int) : List Char :=
  if i < 0 then '-' :: ofNat i.natAbs else ofNat i.natAbs

/-- The value of `c` as a hexadecimal digit of either case. -/
def digitValue? (c : Char) : Option Nat :=
  if '0' ≤ c ∧ c ≤ '9' then some (c.toNat - '0'.toNat)
  else if 'a' ≤ c ∧ c ≤ 'f' then some (c.toNat - 'a'.toNat + 10)
  else if 'A' ≤ c ∧ c ≤ 'F' then some (c.toNat - 'A'.toNat + 10)
  else none

/-- The value of `c` as a digit of `base`. -/
def digit? (base : Nat) (c : Char) : Option Nat :=
  (digitValue? c).filter (· < base)

/-- The value of a text that consists of digits, at least one. -/
def value? (base : Nat) : List Char → Option Nat
  | [] => none
  | digits => digits.foldlM (fun n c => (digit? base c).map (n * base + ·)) 0

/-- The value of the decimal digits in `digits`; other characters count as zeros. -/
def value (digits : List Char) : Nat :=
  digits.foldl (fun n c => n * 10 + (digit? 10 c).getD 0) 0

/-- The longest beginning of a text that consists of decimal digits, and what follows it. -/
def spanDigits (text : List Char) : List Char × List Char :=
  text.span Char.isDigit

end Stimulus.Decimal
