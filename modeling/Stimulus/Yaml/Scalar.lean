import Stimulus.Yaml.Cursor

/-!
Reading scalars.  Each of the functions here starts behind the mark that opens a scalar and gives
its text and the cursor behind it; none stands for a text that is no scalar.  A line end inside a
plain or quoted scalar reads as a blank, and each further one as itself (`Gap.text`).
-/

namespace Stimulus.Yaml

/-! ## Gaps -/

/-- The blanks and line ends between two words of a scalar. -/
structure Gap where
  blanks : List Char
  breaks : List Char
  /-- The first line end was preceded by a backslash and reads as nothing. -/
  escaped : Bool

def Gap.empty : Gap := ⟨[], [], false⟩

/-- Line ends between words: a lone one is a blank, and of several the first is dropped. -/
def foldBreaks : List Char → List Char
  | ['\n'] => [' ']
  | '\n' :: rest => rest
  | breaks => breaks

/-- What a gap reads as: its blanks if it stays on one line, else its line ends. -/
def Gap.text (gap : Gap) : List Char :=
  if gap.escaped then gap.breaks
  else if gap.breaks.isEmpty then gap.blanks
  else foldBreaks gap.breaks

/-- The gap at the cursor.  On a later line a tab before the column `margin` is refused. -/
def readGap (margin : Nat) : Nat → Cursor → Gap → Option (Gap × Cursor)
  | 0, cursor, gap => some (gap, cursor)
  | fuel + 1, cursor, gap =>
    let later := gap.escaped || !gap.breaks.isEmpty
    match cursor.rest with
    | [] => some (gap, cursor)
    | c :: _ =>
      if isBlank c then
        if later && c == '\t' && cursor.column < margin then none
        else if later then readGap margin fuel (cursor.advance 1) gap
        else readGap margin fuel (cursor.advance 1) { gap with blanks := gap.blanks ++ [c] }
      else if isBreak c then
        readGap margin fuel cursor.nextLine
          { gap with blanks := [], breaks := gap.breaks ++ cursor.breakText }
      else some (gap, cursor)

/-! ## Plain scalars -/

/-- A plain scalar in progress: its text in reverse, and the gap behind it. -/
structure Draft where
  text : List Char
  gap : Gap

/-- A plain scalar ends here: at a colon that is an indicator, or at a flow mark. -/
def endsPlain (flow : Bool) (text : List Char) : Bool :=
  match text with
  | [] => true
  | c :: rest => (c == ':' && atGap rest) || (flow && isFlowMark c)

/-- In a flow collection a colon does not stand before a mark. -/
def isLostColon (flow : Bool) (text : List Char) : Bool :=
  match text with
  | ':' :: c :: _ => flow && (isFlowMark c || c == '?')
  | _ => false

/-- A plain scalar, and whether it was left at a later line.  Lines before the column `margin` do
not belong to one in block style. -/
def readPlain (flow : Bool) (margin : Nat) : Nat → Cursor → Draft → Option (String × Bool × Cursor)
  | 0, _, _ => none
  | fuel + 1, cursor, draft =>
    let finish := some (String.ofList draft.text.reverse, !draft.gap.breaks.isEmpty, cursor)
    let afterGap := !draft.gap.breaks.isEmpty || !draft.gap.blanks.isEmpty
    match cursor.rest with
    | [] => finish
    | c :: _ =>
      if isBlank c || isBreak c then do
        let (gap, cursor) ← readGap margin cursor.left cursor .empty
        if !flow && cursor.column < margin then
          some (String.ofList draft.text.reverse, !gap.breaks.isEmpty, cursor)
        else readPlain flow margin fuel cursor { draft with gap }
      else if cursor.atDocumentMark || (afterGap && c == '#') then finish
      else if isLostColon flow cursor.rest then none
      else if endsPlain flow cursor.rest then finish
      else
        readPlain flow margin fuel (cursor.advance 1)
          ⟨c :: (draft.gap.text.reverse ++ draft.text), .empty⟩

/-! ## Quoted scalars -/

/-- The character that a letter behind a backslash stands for. -/
def escape? : Char → Option Char
  | '0' => some '\x00'
  | 'a' => some '\x07'
  | 'b' => some '\x08'
  | 't' => some '\t'
  | '\t' => some '\t'
  | 'n' => some '\n'
  | 'v' => some '\x0b'
  | 'f' => some '\x0c'
  | 'r' => some '\r'
  | 'e' => some '\x1b'
  | ' ' => some ' '
  | '"' => some '"'
  | '/' => some '/'
  | '\\' => some '\\'
  | 'N' => some '\u0085'
  | '_' => some '\u00a0'
  | 'L' => some '\u2028'
  | 'P' => some '\u2029'
  | _ => none

/-- The number of hexadecimal digits behind a backslash and a letter. -/
def escapeWidth? : Char → Option Nat
  | 'x' => some 2
  | 'u' => some 4
  | 'U' => some 8
  | _ => none

def hexValue? (c : Char) : Option Nat :=
  if '0' ≤ c ∧ c ≤ '9' then some (c.toNat - '0'.toNat)
  else if 'a' ≤ c ∧ c ≤ 'f' then some (c.toNat - 'a'.toNat + 10)
  else if 'A' ≤ c ∧ c ≤ 'F' then some (c.toNat - 'A'.toNat + 10)
  else none

def charOf? (n : Nat) : Option Char :=
  if (0xD800 ≤ n ∧ n ≤ 0xDFFF) ∨ 0x10FFFF < n then none else some (Char.ofNat n)

/-- The character of `width` hexadecimal digits at the front. -/
def readHex (width : Nat) (text : List Char) : Option Char := do
  let digits := text.take width
  if digits.length < width then none
  else charOf? (← digits.foldlM (fun n c => (hexValue? c).map (n * 16 + ·)) 0)

/-- The character of an escape whose backslash is passed, and its length. -/
def readEscape (text : List Char) : Option (Char × Nat) :=
  match text with
  | [] => none
  | c :: rest =>
    match escapeWidth? c with
    | some width => (readHex width rest).map (·, width + 1)
    | none => (escape? c).map (·, 1)

/-- A scalar up to its closing quote; `text` holds what is read in reverse. -/
def readQuoted (single : Bool) : Nat → Cursor → List Char → Option (String × Cursor)
  | 0, _, _ => none
  | fuel + 1, cursor, text =>
    if cursor.atDocumentMark then none
    else
      let quote := if single then '\'' else '"'
      let onGap (cursor : Cursor) (gap : Gap) : Option (String × Cursor) := do
        let (gap, cursor) ← readGap 0 (cursor.left + 1) cursor gap
        readQuoted single fuel cursor (gap.text.reverse ++ text)
      match cursor.rest with
      | [] => none
      | c :: rest =>
        if c == quote then
          if single && at? (· == quote) rest then
            readQuoted single fuel (cursor.advance 2) (quote :: text)
          else some (String.ofList text.reverse, cursor.advance 1)
        else if isBlank c || isBreak c then onGap cursor .empty
        else if c == '\\' && !single then
          if at? isBreak rest then onGap (cursor.advance 1).nextLine ⟨[], [], true⟩
          else do
            let (c, length) ← readEscape rest
            readQuoted single fuel (cursor.advance (length + 1)) (c :: text)
        else readQuoted single fuel (cursor.advance 1) (c :: text)

/-! ## Block scalars -/

/-- What becomes of the line ends at the end of a block scalar. -/
inductive Chomp where
  | strip
  | clip
  | keep
  deriving DecidableEq

def chomp? : Char → Option Chomp
  | '+' => some .keep
  | '-' => some .strip
  | _ => none

/-- The indentation that a digit gives; zero is refused. -/
def readIncrement (cursor : Cursor) : Option (Option Nat × Cursor) :=
  match cursor.rest with
  | c :: _ =>
    if c = '0' then none
    else if c.isDigit then some (some (c.toNat - '0'.toNat), cursor.advance 1)
    else some (none, cursor)
  | [] => some (none, cursor)

def readChomp (cursor : Cursor) : Option Chomp × Cursor :=
  match cursor.rest.head?.bind chomp? with
  | some chomp => (some chomp, cursor.advance 1)
  | none => (none, cursor)

/-- The header of a block scalar: a chomping mark and an indentation, in either order. -/
def readHeader (cursor : Cursor) : Option (Chomp × Option Nat × Cursor) := do
  let (chomp, cursor) := readChomp cursor
  let (increment, cursor) ← readIncrement cursor
  let (chomp, cursor) := if chomp.isNone ∧ increment.isSome then readChomp cursor else (chomp, cursor)
  some (chomp.getD .clip, increment, ← cursor.endLine?)

/-- The empty lines at the cursor, and the widest of their margins.  Without an indentation every
blank at the front of a line belongs to its margin; a tab in the margin is refused. -/
def readEmptyLines (indent : Option Nat) :
    Nat → Cursor → Nat → List Char → Option (List Char × Nat × Cursor)
  | 0, cursor, widest, breaks => some (breaks, widest, cursor)
  | fuel + 1, cursor, widest, breaks =>
    let margin := match indent with
      | some n => (cursor.run (· == ' ')).length.min (n - cursor.column)
      | none => (cursor.run (· == ' ')).length
    let cursor := cursor.advance margin
    let widest := widest.max cursor.column
    if indent.all (cursor.column < ·) && at? (· == '\t') cursor.rest then none
    else if at? isBreak cursor.rest then
      readEmptyLines indent fuel cursor.nextLine widest (breaks ++ cursor.breakText)
    else some (breaks, widest, cursor)

/-- A block scalar in progress: its text, the end of its last line, the empty lines behind it, and
whether its last line starts with a blank. -/
structure Block where
  text : List Char
  lineEnd : List Char
  emptyLines : List Char
  indented : Bool

/-- The block with its last line ended before a line that starts with a blank if `indented`.  In
folded style a line end between two lines that do not is a blank, or nothing before empty lines. -/
def Block.join (folded : Bool) (block : Block) (indented : Bool) : List Char :=
  let folds := folded && block.lineEnd.head? == some '\n' && !block.indented && !indented
  let lineEnd :=
    if !folds then block.lineEnd else if block.emptyLines.isEmpty then [' '] else []
  block.text ++ lineEnd ++ block.emptyLines

/-- The lines of a block scalar that stand at the column `indent`. -/
def readBlockLines (folded : Bool) (indent : Nat) : Nat → Cursor → Block → Option (Block × Cursor)
  | 0, cursor, block => some (block, cursor)
  | fuel + 1, cursor, block =>
    if cursor.column ≠ indent ∨ cursor.rest.isEmpty then some (block, cursor)
    else do
      let indented := at? isBlank cursor.rest
      let line := cursor.run (!isBreak ·)
      let cursor' := cursor.advance line.length
      let next := cursor'.nextLine
      let (emptyLines, _, last) ← readEmptyLines (some indent) (next.left + 1) next 0 []
      readBlockLines folded indent fuel last {
        text := block.join folded indented ++ line
        lineEnd := cursor'.breakText
        emptyLines
        indented }

/-- A block scalar inside a collection of the indentation `parent`. -/
def readBlock (folded : Bool) (parent : Int) (cursor : Cursor) : Option (String × Cursor) := do
  let (chomp, increment, cursor) ← readHeader cursor
  let given := increment.map fun n => parent.toNat + n
  let (emptyLines, widest, cursor) ← readEmptyLines given (cursor.left + 1) cursor 0 []
  let indent := given.getD (widest.max ((parent + 1).toNat.max 1))
  let (block, cursor) ← readBlockLines folded indent (cursor.left + 1) cursor
    ⟨[], [], emptyLines, false⟩
  let tail := match chomp with
    | .strip => []
    | .clip => block.lineEnd
    | .keep => block.lineEnd ++ block.emptyLines
  some (String.ofList (block.text ++ tail), cursor)

end Stimulus.Yaml
