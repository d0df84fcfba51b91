/-!
Tables of numbers as text, and sets of code points.  A table's numbers are in base thirty-six with
blanks between, and its rows end with commas.  A set is the list of the lengths of its gaps and
runs by turns, the first gap from zero.
-/

namespace Stimulus.Text

/-- The value of a digit in base thirty-six; other characters count as zero. -/
def tableDigit (c : Char) : Nat :=
  if '0' ≤ c ∧ c ≤ '9' then c.toNat - '0'.toNat
  else if 'a' ≤ c ∧ c ≤ 'z' then c.toNat - 'a'.toNat + 10
  else 0

/-- The rows in a text, `pending` being the value of the digits read of a number and `row` the
numbers before it in its row, the last one first. -/
def readRows (pending : Nat) (row : List Nat) : List Char → List (List Nat)
  | [] => [(pending :: row).reverse]
  | c :: rest =>
    if c = ' ' then readRows 0 (pending :: row) rest
    else if c = ',' then (pending :: row).reverse :: readRows 0 [] rest
    else readRows (pending * 36 + tableDigit c) row rest

/-- The rows of a table. -/
def rows (text : String) : List (List Nat) :=
  readRows 0 [] text.toList

/-- The lengths of the gaps and runs of a set of numbers by turns, a gap first. -/
abbrev Runs := List Nat

namespace Runs

/-- Whether `n` lies in a run, the first length being that of a run if `inside`. -/
def containsFrom (inside : Bool) (n : Nat) : Runs → Bool
  | [] => inside
  | length :: rest => if n < length then inside else containsFrom (!inside) (n - length) rest

/-- Whether a set has `n`; a run without an end follows a gap that is the last length. -/
def contains (runs : Runs) (n : Nat) : Bool :=
  containsFrom false n runs

/-- The set whose lengths are the numbers of a table. -/
def ofText (text : String) : Runs :=
  (rows text).flatten

end Runs

end Stimulus.Text
