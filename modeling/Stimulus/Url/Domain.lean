import Stimulus.Url.Domain.Mapping
import Stimulus.Url.Domain.Direction
import Stimulus.Url.Domain.Joiner
import Stimulus.Url.Punycode

/-!
Domain names in their ASCII form.  A name is mapped and composed as a whole; each label between
its dots that has characters outside ASCII is then written in ASCII behind `xn--`.
-/

namespace Stimulus.Url.Domain

open Stimulus.Text

/-- An ASCII character that no domain name may have. -/
def isForbidden (c : Char) : Bool :=
  c.toNat ≤ 0x20 || c.toNat = 0x7F ||
    ['%', '#', '/', ':', '<', '>', '?', '@', '[', '\\', ']', '^', '|'].contains c

def isAscii (c : Char) : Bool :=
  c.toNat < 0x80

/-- A name with its characters replaced and in composed form. -/
def mapped? (name : List Char) : Option (List Char) :=
  (name.mapM map?).map fun parts => composed parts.flatten

/-- The text that a label of a mapped name stands for; only a text that needs to be written in ASCII
can stand behind `xn--`. -/
def labelText? (label : List Char) : Option (List Char) :=
  match label with
  | 'x' :: 'n' :: '-' :: '-' :: form => do
    let text ← if form.all isAscii then Punycode.decode? form else none
    if text.all isAscii then none else some text
  | label => some label

/-- A character that a name keeps as it is. -/
def stays (c : Char) : Bool :=
  map? c == some [c] && !isForbidden c

/-- Whether a label's text is as mapping leaves it, and can be shown by itself. -/
def isSound (text : List Char) : Bool :=
  text.all stays && composed text == text && !text.head?.any isMark && joinersFit [] text &&
    !"xn--".toList.isPrefixOf text

/-- The ASCII form of a label's text; it has to read as the text again. -/
def labelForm? (text : List Char) : Option (List Char) :=
  if text.all isAscii then some text
  else
    let form := "xn--".toList ++ Punycode.encode text
    if labelText? form = some text then some form else none

/-- The ASCII form of a name given as bytes.  If one label runs from right to left, all of them have
to keep their direction. -/
def toAscii? (bytes : List UInt8) : Option (List Char) := do
  let name ← String.fromUTF8? (ByteArray.mk bytes.toArray)
  let texts ← ((← mapped? name.toList).splitOn '.').mapM labelText?
  let isMixed := texts.any (·.any runsLeft)
  if texts.all fun text => isSound text && (!isMixed || keepsDirection text) then
    return ['.'].intercalate (← texts.mapM labelForm?)
  else none

end Stimulus.Url.Domain
