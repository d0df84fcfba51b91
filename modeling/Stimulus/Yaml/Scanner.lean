import Stimulus.Yaml.Directive

/-!
From text to tokens.  Two things are only known after the fact: that an item was the key of a
mapping, when its colon comes, and that a collection has ended, when a line starts further left.
So the scanner remembers for each open flow collection the item that may still become a key
(`Candidate`), and the indentations of the open block collections.

A text that is no YAML still has tokens up to a point, then `Token.fault`.  The tokens before the
point are those that nothing behind them could change any more (`Scanner.settled`).
-/

namespace Stimulus.Yaml

/-- An item that becomes a key if a colon follows it. -/
structure Candidate where
  /-- The item stands where only a key can stand. -/
  required : Bool
  /-- How many tokens come before the item. -/
  position : Nat
  index : Nat
  line : Nat
  column : Nat

structure Scanner where
  cursor : Cursor
  /-- The tokens so far, the last one first. -/
  tokens : List Token
  count : Nat
  /-- The candidates, of the innermost flow collection first; the last one is of the block level. -/
  candidates : List (Option Candidate)
  /-- The column of the innermost block collection; -1 before the first. -/
  indent : Int
  /-- The columns of the block collections around it. -/
  outer : List Int
  keyAllowed : Bool

namespace Scanner

def start (text : List Char) : Scanner where
  cursor := .start text
  tokens := []
  count := 0
  candidates := [none]
  indent := -1
  outer := []
  keyAllowed := true

def inFlow (s : Scanner) : Bool :=
  1 < s.candidates.length

def emit (token : Token) (s : Scanner) : Scanner :=
  { s with tokens := token :: s.tokens, count := s.count + 1 }

/-- Puts a token behind the first `position` ones. -/
def emitAt (position : Nat) (token : Token) (s : Scanner) : Scanner :=
  { s with tokens := s.tokens.insertIdx (s.count - position) token, count := s.count + 1 }

/-- The number of tokens that are certain: those before the first candidate. -/
def settled (s : Scanner) : Nat :=
  s.candidates.foldl (fun n c => (c.map Candidate.position).elim n n.min) s.count

/-! ## Candidates -/

/-- A candidate is dropped when its line has ended or it has grown too long. -/
def expire? (cursor : Cursor) : Option Candidate → Option (Option Candidate)
  | none => some none
  | some c =>
    if c.line < cursor.line ∨ c.index + 1024 < cursor.index then
      if c.required then none else some none
    else some (some c)

/-- Drops the candidates that can no longer become keys; fails if one of them had to. -/
def expire (s : Scanner) : Option Scanner := do
  some { s with candidates := ← s.candidates.mapM (expire? s.cursor) }

/-- Drops the innermost candidate; fails if it had to become a key. -/
def dropCandidate (s : Scanner) : Option Scanner :=
  match s.candidates with
  | some c :: rest => if c.required then none else some { s with candidates := none :: rest }
  | _ => some s

/-- Makes the item at the cursor the innermost candidate, where keys are allowed. -/
def saveCandidate (s : Scanner) : Option Scanner :=
  if !s.keyAllowed then some s
  else do
    let s ← s.dropCandidate
    let candidate : Candidate := {
      required := !s.inFlow && s.indent == s.cursor.column
      position := s.count
      index := s.cursor.index
      line := s.cursor.line
      column := s.cursor.column }
    some { s with candidates := some candidate :: s.candidates.tail }

/-! ## Indentation -/

/-- Opens a block collection at a column to the right of the innermost one. -/
def roll (column position : Nat) (token : Token) (s : Scanner) : Scanner :=
  if s.inFlow || column ≤ s.indent then s
  else { s.emitAt position token with indent := column, outer := s.indent :: s.outer }

/-- Closes the block collections to the right of a column. -/
def unrollFrom (column : Int) : List Int → Scanner → Scanner
  | [], s => s
  | outer :: rest, s =>
    if column < s.indent then
      unrollFrom column rest { s.emit .blockEnd with indent := outer, outer := rest }
    else s

def unroll (column : Int) (s : Scanner) : Scanner :=
  if s.inFlow then s else unrollFrom column s.outer s

/-! ## Tokens -/

def setCursor (cursor : Cursor) (s : Scanner) : Scanner :=
  { s with cursor }

def allowKey (keyAllowed : Bool) (s : Scanner) : Scanner :=
  { s with keyAllowed }

def advance (n : Nat) (s : Scanner) : Scanner :=
  s.setCursor (s.cursor.advance n)

/-- Passes blanks, comments and line ends.  A tab is a blank only where no key can stand; a new
line in block style allows one.  A byte order mark at the front of a line takes up a column. -/
def skip : Nat → Scanner → Scanner
  | 0, s => s
  | fuel + 1, s =>
    let tab := s.inFlow || !s.keyAllowed
    let mark := s.cursor.column == 0 && at? (· == '\uFEFF') s.cursor.rest
    let cursor := if mark then s.cursor.advance 1 else s.cursor
    let cursor := cursor.skipWhile fun c => c == ' ' || (tab && c == '\t')
    let cursor := if at? (· == '#') cursor.rest then cursor.skipWhile (!isBreak ·) else cursor
    let s := s.setCursor cursor
    if at? isBreak cursor.rest then
      skip fuel { s with cursor := cursor.nextLine, keyAllowed := s.keyAllowed || !s.inFlow }
    else s

/-- The end of the text closes every block collection; it stands on a line of its own. -/
def fetchEnd (s : Scanner) : Option Scanner := do
  let c := s.cursor
  let s := if c.column = 0 then s else s.setCursor { c with line := c.line + 1, column := 0 }
  let s ← (s.unroll (-1)).dropCandidate
  some ((s.allowKey false).emit .streamEnd)

def fetchDirective (s : Scanner) : Option Scanner := do
  let s ← (s.unroll (-1)).dropCandidate
  let (token, cursor) ← readDirective s.cursor
  some (((s.allowKey false).setCursor cursor).emit token)

def fetchDocumentMark (token : Token) (s : Scanner) : Option Scanner := do
  let s ← (s.unroll (-1)).dropCandidate
  some (((s.allowKey false).advance 3).emit token)

/-- The start of a flow collection can itself be a key. -/
def fetchFlowStart (token : Token) (s : Scanner) : Option Scanner := do
  let s ← s.saveCandidate
  some ((({ s with candidates := none :: s.candidates }.allowKey true).advance 1).emit token)

def fetchFlowEnd (token : Token) (s : Scanner) : Option Scanner := do
  let s ← s.dropCandidate
  let candidates := if s.inFlow then s.candidates.tail else s.candidates
  some ((({ s with candidates }.allowKey false).advance 1).emit token)

def fetchFlowEntry (s : Scanner) : Option Scanner := do
  let s ← s.dropCandidate
  some (((s.allowKey true).advance 1).emit .flowEntry)

/-- A mark that opens a block collection at its own column, where that is allowed. -/
def openBlock (token : Token) (s : Scanner) : Option Scanner :=
  if s.inFlow then some s
  else if !s.keyAllowed then none
  else some (s.roll s.cursor.column s.count token)

def fetchBlockEntry (s : Scanner) : Option Scanner := do
  let s ← (← s.openBlock .blockSequenceStart).dropCandidate
  some (((s.allowKey true).advance 1).emit .blockEntry)

def fetchKey (s : Scanner) : Option Scanner := do
  let s ← (← s.openBlock .blockMappingStart).dropCandidate
  some (((s.allowKey !s.inFlow).advance 1).emit .key)

/-- A colon makes the innermost candidate a key, or follows a key of its own. -/
def fetchValue (s : Scanner) : Option Scanner := do
  let s ← match s.candidates with
    | some c :: rest =>
      let s := (s.emitAt c.position .key).roll c.column c.position .blockMappingStart
      some { s with candidates := none :: rest, keyAllowed := false }
    | _ => do
      let s ← s.openBlock .blockMappingStart
      some (s.allowKey !s.inFlow)
  some ((s.advance 1).emit .value)

def fetchAnchor (token : String → Token) (s : Scanner) : Option Scanner := do
  let s ← s.saveCandidate
  let (name, cursor) ← readName (s.cursor.advance 1)
  some (((s.allowKey false).setCursor cursor).emit (token name))

def fetchTag (s : Scanner) : Option Scanner := do
  let s ← s.saveCandidate
  let (token, cursor) ← readTag s.inFlow s.cursor
  some (((s.allowKey false).setCursor cursor).emit token)

def fetchBlockScalar (folded : Bool) (s : Scanner) : Option Scanner := do
  let s ← s.dropCandidate
  let (text, cursor) ← readBlock folded s.indent (s.cursor.advance 1)
  some (((s.allowKey true).setCursor cursor).emit (.scalar text .block))

def fetchQuoted (single : Bool) (s : Scanner) : Option Scanner := do
  let s ← s.saveCandidate
  let cursor := s.cursor.advance 1
  let (text, cursor) ← readQuoted single (cursor.left + 1) cursor []
  some (((s.allowKey false).setCursor cursor).emit (.scalar text .quoted))

def fetchPlain (s : Scanner) : Option Scanner := do
  let s ← s.saveCandidate
  let margin := (s.indent + 1).toNat
  let (text, later, cursor) ←
    readPlain s.inFlow margin (s.cursor.left + 1) s.cursor ⟨[], .empty⟩
  some (((s.allowKey later).setCursor cursor).emit (.scalar text .plain))

/-- A character that a plain scalar does not start with. -/
def isIndicator (c : Char) : Bool :=
  ['-', '?', ':', ',', '[', ']', '{', '}', '#', '&', '*', '!', '|', '>', '\'', '"', '%', '@',
    '`'].contains c

/-- A plain scalar starts here. -/
def startsPlain (inFlow : Bool) (text : List Char) : Bool :=
  match text with
  | [] => false
  | c :: rest =>
    !(isBlank c || isBreak c || isIndicator c) || (c == '-' && !at? isBlank rest) ||
      (!inFlow && (c == '?' || c == ':') && !atGap rest)

/-- The token at the cursor, the blanks before it passed. -/
def fetchHere (s : Scanner) : Option Scanner :=
  let cursor := s.cursor
  match cursor.rest with
  | [] => s.fetchEnd
  | c :: rest =>
    let gap := atGap rest
    if cursor.column == 0 && c == '%' then s.fetchDirective
    else if cursor.atMarker '-' then s.fetchDocumentMark .documentStart
    else if cursor.atMarker '.' then s.fetchDocumentMark .documentEnd
    else if c == '[' then s.fetchFlowStart .flowSequenceStart
    else if c == '{' then s.fetchFlowStart .flowMappingStart
    else if c == ']' then s.fetchFlowEnd .flowSequenceEnd
    else if c == '}' then s.fetchFlowEnd .flowMappingEnd
    else if c == ',' then s.fetchFlowEntry
    else if c == '-' && gap then s.fetchBlockEntry
    else if c == '?' && (s.inFlow || gap) then s.fetchKey
    else if c == ':' && (s.inFlow || gap) then s.fetchValue
    else if c == '*' then s.fetchAnchor .alias
    else if c == '&' then s.fetchAnchor .anchor
    else if c == '!' then s.fetchTag
    else if c == '|' && !s.inFlow then s.fetchBlockScalar false
    else if c == '>' && !s.inFlow then s.fetchBlockScalar true
    else if c == '\'' then s.fetchQuoted true
    else if c == '"' then s.fetchQuoted false
    else if startsPlain s.inFlow cursor.rest then s.fetchPlain
    else none

/-- The next token, with those that its position implies. -/
def fetch (s : Scanner) : Option Scanner := do
  let s ← (s.skip (s.cursor.left + 1)).expire
  (s.unroll s.cursor.column).fetchHere

/-- All tokens of the text behind the scanner; `certain` of those before it are settled. -/
def run : Nat → Scanner → Nat → List Token
  | 0, s, certain => s.tokens.reverse.take certain ++ [.fault]
  | fuel + 1, s, certain =>
    match s.expire with
    | none => s.tokens.reverse.take certain ++ [.fault]
    | some s =>
      if s.tokens.head? = some .streamEnd then s.tokens.reverse
      else
        match s.fetch with
        | none => s.tokens.reverse.take s.settled ++ [.fault]
        | some next => run fuel next s.settled

end Scanner

/-- The tokens of a text.  Every step but the last passes a character. -/
def tokenize (text : String) : List Token :=
  let chars := text.toList
  if chars.all isAllowed then (Scanner.start chars).run (chars.length + 2) 0 else [.fault]

end Stimulus.Yaml
