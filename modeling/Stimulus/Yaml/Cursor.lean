/-!
A place in a YAML text, and the classes of characters that the tokens are made of.  The line and
the column decide what a token belongs to, so the cursor counts both; a line ends at a line feed, a
carriage return, both together, or one of the three line separators of Unicode.
-/

namespace Stimulus.Yaml

/-! ## Characters -/

def isAllowed (c : Char) : Bool :=
  let n := c.toNat
  n == 0x09 || n == 0x0A || n == 0x0D || (0x20 ≤ n && n ≤ 0x7E) || n == 0x85 ||
    (0xA0 ≤ n && n ≤ 0xFFFD) || 0x10000 ≤ n

def isBlank (c : Char) : Bool :=
  c == ' ' || c == '\t'

def isBreak (c : Char) : Bool :=
  c == '\r' || c == '\n' || c == '\x85' || c == '\u2028' || c == '\u2029'

/-- A character of a name: of an anchor, a tag handle or a directive. -/
def isWord (c : Char) : Bool :=
  c.isAlphanum || c == '_' || c == '-'

/-- A character that brackets a flow collection or parts its items. -/
def isFlowMark (c : Char) : Bool :=
  [',', '[', ']', '{', '}'].contains c

/-- The end of the text, or a character that satisfies `p`. -/
def endOr (p : Char → Bool) (text : List Char) : Bool :=
  text.head?.all p

/-- Nothing, a blank or a line end stands at the front. -/
def atGap (text : List Char) : Bool :=
  endOr (fun c => isBlank c || isBreak c) text

def atLineEnd (text : List Char) : Bool :=
  endOr isBreak text

/-- A character that satisfies `p` stands at the front. -/
def at? (p : Char → Bool) (text : List Char) : Bool :=
  text.head?.any p

/-! ## Cursors -/

/-- The text that is left, and where it starts. -/
structure Cursor where
  rest : List Char
  left : Nat
  index : Nat
  line : Nat
  column : Nat

namespace Cursor

def start (text : List Char) : Cursor := ⟨text, text.length, 0, 0, 0⟩

/-- The cursor `n` characters further on the same line. -/
def advance (n : Nat) (cursor : Cursor) : Cursor :=
  { cursor with
    rest := cursor.rest.drop n
    left := cursor.left - n
    index := cursor.index + n
    column := cursor.column + n }

/-- The characters at the cursor that satisfy `p`. -/
def run (p : Char → Bool) (cursor : Cursor) : List Char :=
  cursor.rest.takeWhile p

def skipWhile (p : Char → Bool) (cursor : Cursor) : Cursor :=
  cursor.advance (cursor.run p).length

/-- The cursor behind the line end it stands at; a carriage return and a line feed are one. -/
def nextLine (cursor : Cursor) : Cursor :=
  match cursor.rest with
  | '\r' :: '\n' :: rest => ⟨rest, cursor.left - 2, cursor.index + 2, cursor.line + 1, 0⟩
  | _ :: rest => ⟨rest, cursor.left - 1, cursor.index + 1, cursor.line + 1, 0⟩
  | [] => cursor

/-- What a line end reads as: a line feed, unless it is one of the two separators that are kept. -/
def breakText (cursor : Cursor) : List Char :=
  match cursor.rest with
  | [] => []
  | c :: _ => if c = '\u2028' ∨ c = '\u2029' then [c] else ['\n']

/-- The cursor stands at the first column, at three of `mark` that end a word. -/
def atMarker (mark : Char) (cursor : Cursor) : Bool :=
  cursor.column == 0 &&
    match cursor.rest with
    | a :: b :: c :: rest => a == mark && b == mark && c == mark && atGap rest
    | _ => false

/-- The cursor stands at the line that starts or ends a document. -/
def atDocumentMark (cursor : Cursor) : Bool :=
  cursor.atMarker '-' || cursor.atMarker '.'

/-- The cursor at the end of its line, behind blanks and a comment; none if anything else stands
there. -/
def endLine? (cursor : Cursor) : Option Cursor :=
  let cursor := cursor.skipWhile isBlank
  let cursor := if at? (· == '#') cursor.rest then cursor.skipWhile (!isBreak ·) else cursor
  if atLineEnd cursor.rest then some cursor.nextLine else none

end Cursor

end Stimulus.Yaml
