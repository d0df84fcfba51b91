import Stimulus.Text.Mark

/-!
The direction of the characters of a name.  A name with characters that run from right to left is
held to rules that keep its labels apart when they are shown.
-/

namespace Stimulus.Url.Domain

open Stimulus.Text

/-- The code points of letters that run from right to left. -/
def leftwardRuns : Runs := .ofText (" ".intercalate [
    "14u n9 1bxr um 1kw 1kw 16o0 1u8"])

/-- The code points of digits that run from left to right in every text. -/
def numberRuns : Runs := .ofText (" ".intercalate [
    "1c a 1bq a 1drb v"])

/-- The code points of digits that belong to text from right to left. -/
def leftwardNumberRuns : Runs := .ofText (" ".intercalate [
    "19c a 1 2 1fwj 9c"])

/-- The code points of signs whose direction is that of their surroundings. -/
def neutralRuns : Runs := .ofText (" ".intercalate [
    "0 9 5 e 5 1s q 2s o 1 ch 2 7 e 2 s 1 3m 4 2 3j 2 b6 1g 20 2 1 2 1 1 1 d 27 3 35 7 4 5 7c 4",
    "e0 2 7 1 6t 8 6y e 3b 7 cg 1 6y 4 uq g 2o 1 ii 5 8r 1 k w 8g 6 48 y 170 8y 1o bw 1x q 1 ly 1",
    "9f 74 mo 51 7 d 7 74 ed 3 p f 1 6 4 2 4 2n 1 2i 1 5g 1c 5hs 1s h3k 1s 8t 3 2r e 3j z 2t 1 4f",
    "8 8 8 1g c kq 2e g3i 8l i6 1 1q 25 3 1s 1fz 1 ex 7 102 k 16i w 1ud 16 fs3 1 jd2 5z 1s 2o 333",
    "cx 200 gw t 3 1p 1l 3e 2ow"])

/-- How a character takes part in the direction of a text. -/
inductive Direction where
  | rightward
  | leftward
  | number
  | leftwardNumber
  | neutral
  | mark
  deriving DecidableEq

def direction (c : Char) : Direction :=
  if isNonspacing c then .mark
  else if numberRuns.contains c.toNat then .number
  else if leftwardNumberRuns.contains c.toNat then .leftwardNumber
  else if neutralRuns.contains c.toNat then .neutral
  else if leftwardRuns.contains c.toNat then .leftward
  else .rightward

/-- Whether a character makes a name one that has a direction to keep. -/
def runsLeft (c : Char) : Bool :=
  direction c = .leftward || direction c = .leftwardNumber

/-- Whether a label starts and ends with characters of one direction and has no other ones, marks
at its end aside.  A label from right to left has digits of one kind. -/
def keepsDirection (label : List Char) : Bool :=
  let directions := label.map direction
  let last := directions.reverse.find? (· ≠ .mark)
  match directions.head? with
  | some .rightward =>
    last.any (fun d => d = .rightward || d = .number) &&
      directions.all fun d => d ≠ .leftward && d ≠ .leftwardNumber
  | some .leftward =>
    last.any (fun d => d = .leftward || d = .number || d = .leftwardNumber) &&
      directions.all (· ≠ .rightward) &&
      !(directions.contains .number && directions.contains .leftwardNumber)
  | some _ => false
  | none => true

end Stimulus.Url.Domain
