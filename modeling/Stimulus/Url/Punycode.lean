/-!
Characters outside ASCII written in ASCII.  The ASCII characters of a text stand first; the others
follow in the order of their code points as distances, each a number whose digits grow in base
thirty-six and whose length adapts to the distances before it.
-/

namespace Stimulus.Url.Punycode

/-- The digit of a number below thirty-six. -/
def digit (n : Nat) : Char :=
  if n < 26 then Char.ofNat ('a'.toNat + n) else Char.ofNat ('0'.toNat + (n - 26))

def digitValue? (c : Char) : Option Nat :=
  if 'a' ≤ c ∧ c ≤ 'z' then some (c.toNat - 'a'.toNat)
  else if 'A' ≤ c ∧ c ≤ 'Z' then some (c.toNat - 'A'.toNat)
  else if '0' ≤ c ∧ c ≤ '9' then some (c.toNat - '0'.toNat + 26)
  else none

/-- A digit below this ends a number, `k` being thirty-six times its place counted from one. -/
def threshold (bias k : Nat) : Nat :=
  min 26 (max 1 (k - bias))

/-- How often a distance is divided before it is small, times thirty-six, and what is left. -/
def shrink (delta k : Nat) : Nat × Nat :=
  if 455 < delta then shrink (delta / 35) (k + 36) else (delta, k)
termination_by delta
decreasing_by exact Nat.div_lt_self (by omega) (by omega)

/-- The bias after a distance that led to the character number `count`. -/
def adapt (delta count : Nat) (isFirst : Bool) : Nat :=
  let delta := if isFirst then delta / 700 else delta / 2
  let (delta, k) := shrink (delta + delta / count) 0
  k + 36 * delta / (delta + 38)

/-! ## Writing -/

/-- The digits of a number from the place that belongs to `k`. -/
def number (bias k n : Nat) : List Char :=
  let limit := threshold bias k
  if n < limit then [digit n]
  else digit (limit + (n - limit) % (36 - limit)) :: number bias (k + 36) ((n - limit) / (36 - limit))
termination_by n
decreasing_by
  have : 1 ≤ threshold bias k := by unfold threshold; omega
  exact Nat.lt_of_le_of_lt (Nat.div_le_self ..) (by omega)

/-- How far a text is written: all code points below `next`, `written` characters. -/
structure Writer where
  next : Nat
  bias : Nat
  written : Nat
  delta : Nat
  /-- The digits, in reverse. -/
  digits : List Char

/-- Pass one character of a text while its characters `point` are written. -/
def Writer.step (point basic : Nat) (w : Writer) (c : Char) : Writer :=
  if c.toNat < point then { w with delta := w.delta + 1 }
  else if c.toNat = point then
    { w with
      bias := adapt w.delta (w.written + 1) (w.written = basic)
      written := w.written + 1
      delta := 0
      digits := (number w.bias 36 w.delta).reverse ++ w.digits }
  else w

/-- Write all characters `point` of a text. -/
def Writer.point (text : List Char) (basic : Nat) (w : Writer) (point : Nat) : Writer :=
  let start := { w with delta := w.delta + (point - w.next) * (w.written + 1) }
  let after := text.foldl (Writer.step point basic) start
  { after with next := point + 1, delta := after.delta + 1 }

/-- The ASCII form of a text. -/
def encode (text : List Char) : List Char :=
  let basic := text.filter (·.toNat < 0x80)
  let points := ((text.filter (0x80 ≤ ·.toNat)).map Char.toNat).mergeSort.eraseDups
  let start : Writer := ⟨0x80, 72, basic.length, 0, []⟩
  let digits := (points.foldl (Writer.point text basic.length) start).digits.reverse
  if basic.isEmpty then digits else basic ++ '-' :: digits

/-! ## Reading -/

/-- How far a text is read. -/
structure Reader where
  /-- The code point of the last character put in. -/
  point : Nat
  /-- Where the next character goes if its distance is zero. -/
  index : Nat
  bias : Nat
  /-- The number under way: its digits so far, the worth of the next digit, and its place. -/
  sum : Nat
  weight : Nat
  k : Nat
  text : List Char

/-- Put in the character that is `r.sum` steps away. -/
def Reader.insert? (r : Reader) : Option Reader :=
  let index := r.index + r.sum
  let size := r.text.length + 1
  let point := r.point + index / size
  let position := index % size
  if h : point.isValidChar then
    some
      { point
        index := position + 1
        bias := adapt r.sum size (r.index = 0)
        sum := 0
        weight := 1
        k := 36
        text := r.text.insertIdx position (Char.ofNatAux point h) }
  else none

def Reader.step? (r : Reader) (c : Char) : Option Reader := do
  let value ← digitValue? c
  let sum := r.sum + value * r.weight
  let limit := threshold r.bias r.k
  let r := { r with sum }
  if value < limit then r.insert?
  else some { r with weight := r.weight * (36 - limit), k := r.k + 36 }

/-- The text of an ASCII form; `none` if it is the form of none. -/
def decode? (form : List Char) : Option (List Char) := do
  let (digits, basic) := (form.reverse.span (· ≠ '-'))
  let (basic, digits) :=
    match basic with
    | _ :: c :: rest => ((c :: rest).reverse, digits.reverse)
    | _ => ([], form)
  let last ← digits.foldlM Reader.step? ⟨0x80, 0, 72, 0, 1, 36, basic⟩
  if last.weight = 1 then some last.text else none

end Stimulus.Url.Punycode
