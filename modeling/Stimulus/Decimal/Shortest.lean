import Stimulus.Decimal.Binary64
import Stimulus.Decimal.Digits

/-!
The shortest decimal text of a floating point number: among the decimal numbers that round to it,
those with the fewest digits, and of these the nearest.  `shortest` finds the digits on exact
fractions, and `text` sets them with a point or an exponent as a `PointStyle` says.
-/

namespace Stimulus.Decimal

/-- The decimal number `digits · 10 ^ power`. -/
structure Digits where
  digits : Nat
  power : Int
  deriving DecidableEq

/-- `a ≤ b`, or `a < b` where the bound itself is `excluded`, on fractions. -/
def withinBound (excluded : Bool) (a b : Nat × Nat) : Bool :=
  let left := a.1 * b.2
  let right := b.1 * a.2
  if excluded then left < right else left ≤ right

/-- The decimal exponent `k` with `10 ^ k ≤ v < 10 ^ (k + 1)`, from that of the power of two. -/
def floorLog10 (v : Nat × Nat) : Int :=
  let guess := Binary64.floorLog2 v.1 v.2 * 30103 / 100000
  let reaches (k : Int) : Bool :=
    let (n, d) := Binary64.scale v.1 v.2 10 (-k)
    d ≤ n
  if !reaches guess then guess - 1 else if reaches (guess + 1) then guess + 1 else guess

/-- The numbers that round to a given one: the ends of the interval, and whether they belong to
it. -/
structure Interval where
  low : Nat × Nat
  high : Nat × Nat
  openEnds : Bool

/-- The interval around a number other than zero; below a power of two it is half as wide. -/
def Interval.around (x : Binary64) : Interval :=
  let step := if x.significand = Binary64.leastNormal ∧ Binary64.leastExponent < x.exponent then 1 else 2
  { low := Binary64.scale (4 * x.significand - step) 1 2 (x.exponent - 2)
    high := Binary64.scale (4 * x.significand + 2) 1 2 (x.exponent - 2)
    openEnds := x.significand % 2 = 1 }

def Interval.contains (i : Interval) (v : Nat × Nat) : Bool :=
  withinBound i.openEnds i.low v && withinBound i.openEnds v i.high

/-- The neighbour of `v` on the grid of the multiples of `10 ^ power` that lies in the interval,
the nearer one if both do. -/
def gridPoint? (i : Interval) (v : Nat × Nat) (power : Int) : Option Nat :=
  let (n, d) := Binary64.scale v.1 v.2 10 (-power)
  let below := n / d
  let fits (k : Nat) : Bool := i.contains (Binary64.scale k 1 10 power)
  let nearest := Binary64.roundHalfEven n d
  if fits nearest then some nearest
  else if fits below then some below
  else if fits (below + 1) then some (below + 1)
  else none

/-- Digits without the zeros at their end. -/
def Digits.stripZeros : Nat → Digits → Digits
  | 0, x => x
  | fuel + 1, x =>
    if x.digits % 10 = 0 ∧ x.digits ≠ 0 then stripZeros fuel ⟨x.digits / 10, x.power + 1⟩ else x

/-- The shortest digits that round to the magnitude of `x`; seventeen always do. -/
def shortest (x : Binary64) : Digits :=
  if x.significand = 0 then ⟨0, 0⟩
  else
    let v := x.ratio
    let i := Interval.around x
    let top := floorLog10 v
    let found := (List.range 17).findSome? fun (n : Nat) =>
      (gridPoint? i v (top - (n : Nat))).map fun k => (⟨k, top - (n : Nat)⟩ : Digits)
    (found.getD ⟨0, 0⟩).stripZeros 20

/-- The decimal exponents of a first digit that are written with a point and no exponent part. -/
structure PointStyle where
  least : Option Int
  greatest : Option Int

def PointStyle.positional (style : PointStyle) (k : Int) : Bool :=
  style.least.all (· ≤ k) && style.greatest.all (k ≤ ·)

/-- The style of data: an exponent part outside `-5` to `15`. -/
def PointStyle.data : PointStyle := ⟨some (-5), some 15⟩

/-- The style of a message: never an exponent part. -/
def PointStyle.plain : PointStyle := ⟨none, none⟩

/-- The text of a number; positional text always has a point. -/
def text (style : PointStyle) (x : Binary64) : List Char :=
  let { digits, power } := shortest x
  let ds := ofNat digits
  let k : Int := power + ds.length - 1
  let magnitude :=
    if !style.positional k then
      let (head, rest) := ds.splitAt 1
      let fraction := if rest.isEmpty then [] else '.' :: rest
      head ++ fraction ++ 'e' :: (if k < 0 then '-' else '+') :: ofNat k.natAbs
    else if k < 0 then
      '0' :: '.' :: List.replicate (k.natAbs - 1) '0' ++ ds
    else
      let whole := k.toNat + 1
      let padded := ds ++ List.replicate (whole - ds.length) '0'
      let fraction := padded.drop whole
      padded.take whole ++ '.' :: (if fraction.isEmpty then ['0'] else fraction)
  if x.negative then '-' :: magnitude else magnitude

/-- The text in a message of a number that may be infinite. -/
def Extended.text : Extended → List Char
  | .finite x => Decimal.text .plain x
  | .infinite negative => if negative then "-inf".toList else "inf".toList
  | .notANumber => "NaN".toList

end Stimulus.Decimal
