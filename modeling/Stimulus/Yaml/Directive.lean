import Stimulus.Yaml.Cursor
import Stimulus.Yaml.Scalar
import Stimulus.Yaml.Token

/-!
Reading the tokens that name things: directives, anchors, aliases and tags.
-/

namespace Stimulus.Yaml

/-- Characters of a tag, a few more of them where nothing around the tag can end it. -/
def isTagChar (closed : Bool) (c : Char) : Bool :=
  isWord c || [';', '/', '?', ':', '@', '&', '=', '+', '$', '.', '%', '!', '~', '*', '\'', '(', ')'].contains c ||
    (closed && [',', '[', ']'].contains c)

/-- The bytes of percent escapes at the front of a text, at most `n`, and what follows. -/
def readTagBytes : Nat → List Char → List UInt8 × List Char
  | 0, text => ([], text)
  | n + 1, text =>
    match text with
    | '%' :: a :: b :: rest =>
      match hexValue? a, hexValue? b with
      | some high, some low =>
        let (bytes, rest) := readTagBytes n rest
        (UInt8.ofNat (high * 16 + low) :: bytes, rest)
      | _, _ => ([], text)
    | _ => ([], text)

/-- The number of bytes of the character that a byte starts. -/
def encodedLength (first : UInt8) : Nat :=
  if first < 0x80 then 1 else if first < 0xE0 then 2 else if first < 0xF0 then 3 else 4

/-- The character that percent escapes at the front of a text stand for, and how many characters
they take. -/
def readTagEscape (text : List Char) : Option (Char × Nat) := do
  let (first, _) := readTagBytes 1 text
  let width := encodedLength (← first.head?)
  let (bytes, _) := readTagBytes width text
  if bytes.length < width then none
  else
    match (← String.fromUTF8? (ByteArray.mk bytes.toArray)).toList with
    | [c] => some (c, 3 * width)
    | _ => none

/-- The characters of a tag at the cursor, in reverse, with their percent escapes read. -/
def readTagText (closed : Bool) : Nat → Cursor → List Char → Option (List Char × Cursor)
  | 0, cursor, text => some (text, cursor)
  | fuel + 1, cursor, text =>
    match cursor.rest with
    | [] => some (text, cursor)
    | c :: _ =>
      if !isTagChar closed c then some (text, cursor)
      else if c == '%' then do
        let (c, length) ← readTagEscape cursor.rest
        readTagText closed fuel (cursor.advance length) (c :: text)
      else readTagText closed fuel (cursor.advance 1) (c :: text)

/-- A handle: an exclamation mark, or a word between two of them.  In a directive the closing mark
is required. -/
def readHandle (inDirective : Bool) (cursor : Cursor) : Option (List Char × Cursor) :=
  match cursor.rest with
  | '!' :: _ =>
    let cursor := cursor.advance 1
    let word := cursor.run isWord
    let cursor := cursor.advance word.length
    if at? (· == '!') cursor.rest then some ('!' :: word ++ ['!'], cursor.advance 1)
    else if inDirective && !word.isEmpty then none
    else some ('!' :: word, cursor)
  | _ => none

/-- A tag at its exclamation mark: verbatim in angle brackets, behind a handle, or of its own. -/
def readTag (inFlow : Bool) (cursor : Cursor) : Option (Token × Cursor) := do
  let (token, cursor) ← (do
    match cursor.rest with
    | '!' :: '<' :: _ =>
      let (text, cursor) ← readTagText true cursor.left (cursor.advance 2) []
      if text.isEmpty || !at? (· == '>') cursor.rest then none
      else some (Token.tag "" (String.ofList text.reverse), cursor.advance 1)
    | _ =>
      let (handle, cursor) ← readHandle false cursor
      if 2 ≤ handle.length ∧ handle.getLast? = some '!' then
        let (text, cursor) ← readTagText false cursor.left cursor []
        if text.isEmpty then none
        else some (Token.tag (String.ofList handle) (String.ofList text.reverse), cursor)
      else
        let (text, cursor) ← readTagText false cursor.left cursor handle.tail.reverse
        if text.isEmpty then some (Token.tag "" "!", cursor)
        else some (Token.tag "!" (String.ofList text.reverse), cursor))
  if atGap cursor.rest || (inFlow && at? (· == ',') cursor.rest) then some (token, cursor) else none

/-- The name of an anchor or alias, behind its mark. -/
def readName (cursor : Cursor) : Option (String × Cursor) :=
  let name := cursor.run isWord
  let cursor := cursor.advance name.length
  let ends := atGap cursor.rest ||
    at? (fun c => ['?', ':', ',', ']', '}', '%', '@', '`'].contains c) cursor.rest
  if name.isEmpty || !ends then none else some (String.ofList name, cursor)

/-- A number of at most nine digits. -/
def readVersionNumber (cursor : Cursor) : Option (Nat × Cursor) :=
  let digits := cursor.run Char.isDigit
  if digits.isEmpty ∨ 9 < digits.length then none
  else
    some (digits.foldl (fun n c => n * 10 + (c.toNat - '0'.toNat)) 0, cursor.advance digits.length)

/-- A directive at its percent sign, up to the end of its line. -/
def readDirective (cursor : Cursor) : Option (Token × Cursor) := do
  let cursor := cursor.advance 1
  let name := cursor.run isWord
  let cursor := cursor.advance name.length
  if !atGap cursor.rest then none
  else
    match String.ofList name with
    | "YAML" =>
      let (major, cursor) ← readVersionNumber (cursor.skipWhile isBlank)
      if !at? (· == '.') cursor.rest then none
      else
        let (minor, cursor) ← readVersionNumber (cursor.advance 1)
        some (.versionDirective major minor, ← cursor.endLine?)
    | "TAG" =>
      let (handle, cursor) ← readHandle true (cursor.skipWhile isBlank)
      if !at? isBlank cursor.rest then none
      else
        let cursor := cursor.skipWhile isBlank
        let (text, cursor) ← readTagText true cursor.left cursor []
        if text.isEmpty || !atGap cursor.rest then none
        else
          some (.tagDirective (String.ofList handle) (String.ofList text.reverse), ← cursor.endLine?)
    | _ => none

end Stimulus.Yaml
