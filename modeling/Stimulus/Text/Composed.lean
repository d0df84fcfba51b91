import Stimulus.Text.Composed.Table

/-!
The composed form of a text: characters that are the same as a pair are taken apart, the marks
behind a character are put in the order of their places, and the pairs are put together again.
Two spellings of one text have one composed form.
-/

namespace Stimulus.Text

/-- The pair that is the same as the character `distance` behind the row before the first one. -/
def pairAt? (distance : Nat) : List (List Nat) → Option (Char × Char)
  | [gap, first, second] :: rest =>
    if distance < gap then none
    else if distance = gap then some (Char.ofNat first, Char.ofNat second)
    else pairAt? (distance - gap) rest
  | _ => none

/-- The character that is the same as a pair, `before` being that of the row before. -/
def charOfPair? (before : Nat) (first second : Char) : List (List Nat) → Option Char
  | [gap, a, b] :: rest =>
    if first.toNat = a ∧ second.toNat = b then some (Char.ofNat (before + gap))
    else charOfPair? (before + gap) first second rest
  | _ => none

/-! ## Syllables made of two or three letters -/

namespace Syllable

def firstLead : Nat := 0x1100
def firstVowel : Nat := 0x1161
/-- One before the first tail: a syllable without a tail has this one. -/
def noTail : Nat := 0x11A7
def first : Nat := 0xAC00
def leads : Nat := 19
def vowels : Nat := 21
def tails : Nat := 28

def isSyllable (n : Nat) : Bool :=
  first ≤ n && n < first + leads * vowels * tails

/-- The letters of a syllable. -/
def letters (n : Nat) : List Char :=
  let index := n - first
  let tail := index % tails
  let vowel := index / tails % vowels
  let lead := index / tails / vowels
  let pair := [Char.ofNat (firstLead + lead), Char.ofNat (firstVowel + vowel)]
  if tail = 0 then pair else pair ++ [Char.ofNat (noTail + tail)]

/-- The syllable of a lead and a vowel, or of a syllable without a tail and a tail. -/
def join? (a b : Nat) : Option Char :=
  if firstLead ≤ a ∧ a < firstLead + leads ∧ firstVowel ≤ b ∧ b < firstVowel + vowels then
    some (Char.ofNat (first + ((a - firstLead) * vowels + (b - firstVowel)) * tails))
  else if isSyllable a ∧ (a - first) % tails = 0 ∧ noTail < b ∧ b < noTail + tails then
    some (Char.ofNat (a + (b - noTail)))
  else none

end Syllable

/-! ## The form -/

/-- The class of the place of a mark; zero for characters that are no such marks. -/
def placeClass (c : Char) : Nat :=
  let found := classRows.findSome? fun
    | [first, count, place] =>
      if first ≤ c.toNat ∧ c.toNat < first + count then some place else none
    | _ => none
  found.getD 0

/-- A character taken apart; its chain of pairs is at most `depth` long. -/
def takeApart : Nat → Char → List Char
  | 0, c => [c]
  | depth + 1, c =>
    if Syllable.isSyllable c.toNat then Syllable.letters c.toNat
    else
      match pairAt? c.toNat pairRows with
      | some (first, second) => takeApart depth first ++ [second]
      | none => [c]

/-- The character that two are the same as. -/
def join? (a b : Char) : Option Char :=
  (Syllable.join? a.toNat b.toNat).or (charOfPair? 0 a b pairRows)

/-- Insert a mark behind those whose place does not come after its own, the marks being in reverse. -/
def insertMark (mark : Char × Nat) : List (Char × Nat) → List (Char × Nat)
  | [] => [mark]
  | last :: marks =>
    if mark.2 < last.2 then last :: insertMark mark marks else mark :: last :: marks

/-- Each character with the class of its place, the marks in order; `marks` are those read last, in
reverse. -/
def arrange (marks : List (Char × Nat)) : List Char → List (Char × Nat)
  | [] => marks.reverse
  | c :: rest =>
    let place := placeClass c
    if place = 0 then marks.reverse ++ (c, 0) :: arrange [] rest
    else arrange (insertMark (c, place) marks) rest

/-- Put pairs together.  `base` is the last character that is no mark, and `marks` are those left
behind it, in reverse. -/
def putTogether (base : Char) (marks : List (Char × Nat)) : List (Char × Nat) → List Char
  | [] => base :: (marks.map Prod.fst).reverse
  | (c, place) :: rest =>
    let isBlocked := match marks with
      | [] => false
      | last :: _ => decide (place ≤ last.2)
    match if isBlocked then none else join? base c with
    | some joined => putTogether joined marks rest
    | none =>
      if place = 0 then base :: (marks.map Prod.fst).reverse ++ putTogether c [] rest
      else putTogether base ((c, place) :: marks) rest

/-- The first mark; no character before it is the second one of a pair. -/
def firstMark : Nat := 0x300

/-- The composed form of a text.  A text before the first mark is in composed form. -/
def composed (text : List Char) : List Char :=
  if text.all (·.toNat < firstMark) then text
  else
    let apart := arrange [] (text.flatMap (takeApart 3))
    let (leading, rest) := apart.span fun c => c.2 ≠ 0
    leading.map Prod.fst ++
      match rest with
      | [] => []
      | (c, _) :: rest => putTogether c [] rest

end Stimulus.Text
