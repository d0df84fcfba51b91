import Stimulus.Text.Composed
import Stimulus.Text.Mark

/-!
Characters without a shape that say how their neighbours join.  A name has one only where it
changes how the name looks.
-/

namespace Stimulus.Url.Domain

open Stimulus.Text

/-- The code points of letters that join on both sides. -/
def bothJoiningRuns : Runs := .ofText (" ".intercalate [
    "17k 1 5 1 1 1 1 5 4 d 1 7 1 2 z 2 9 f i 12 1 2 9 1 1 1 1 2 14 3 2 1 i 3 5 4 1 9 1 1 1 1 1 2",
    "v b 3 f 2 4 1 1 2 3 2 6 22 x 2e 5 2 1 1 a 1 1 a 1 1 4 2 1 t 1 2 5 1 8 9 a 5 2 2 6 1 f 30e 1",
    "o 2o 7 y 1 6 scw 1e jf2 5 e 4 1 5 1 3 a 4 41 1 1 1 3 3 1 2 1 1 2 1 s 2 9e x 1 1 bj 2 1 a 2o",
    "3 1 h c 3 s 4 2 c 1a 1 1 2 4 1 2 2 1 2 1 1 2 1 5 1 16xj y"])

/-- The code points of letters that join the letter before them only. -/
def beforeJoiningRuns : Runs := .ofText (" ".intercalate [
    "17m 4 1 1 1 1 5 4 l 1 14 3 k i 12 1 2 9 1 1 1 1 2 2 1 1 o 2 w 1 4 5 4 1 9 1 1 1 1 1 2 1 t 1",
    "b 3 f 2 4 1 1 2 3 2 5i 1 5 2 1 1 a 1 1 3 e 1 1 q b 1 r 3 1 1 2 2 6 1 1eyz 1 1 1 1 2 3 5 a 1",
    "3 1 2 1 a 1 41 1 1 3 3 1 2 1 1 2 1 8 g 4 ad 1 bj 1 34 1 w 1 v 2 1q 3 2 2 2 1 4 2 5 1"])

/-- The code points of letters that join the letter behind them only. -/
def behindJoiningRuns : Runs := .ofText (" ".intercalate [
    "x9u 1 jfe 1 9 1 fc 1 ju l"])

/-- Whether a letter joins the one behind it. -/
def joinsBehind (c : Char) : Bool :=
  bothJoiningRuns.contains c.toNat || behindJoiningRuns.contains c.toNat

/-- Whether a letter joins the one before it. -/
def joinsBefore (c : Char) : Bool :=
  bothJoiningRuns.contains c.toNat || beforeJoiningRuns.contains c.toNat

/-- Whether the nearest letter of a text that is no mark has a property. -/
def nearest (p : Char → Bool) (text : List Char) : Bool :=
  (text.dropWhile isNonspacing).head?.any p

def joiner : Char := '\u200D'

def nonJoiner : Char := '\u200C'

/-- The class of the place of signs that take the vowel from a letter. -/
def vowelKiller : Nat := 9

/-- Whether the shapeless characters of a label stand where they have a meaning, `before` being
what precedes the rest of the label in reverse. -/
def joinersFit (before : List Char) : List Char → Bool
  | [] => true
  | c :: rest =>
    let killed := before.head?.any (placeClass · = vowelKiller)
    let parts := nearest joinsBehind before && nearest joinsBefore rest
    (c ≠ joiner || killed) && (c ≠ nonJoiner || killed || parts) && joinersFit (c :: before) rest

end Stimulus.Url.Domain
