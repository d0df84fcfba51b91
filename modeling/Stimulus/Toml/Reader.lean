import Stimulus.Decimal.Binary64
import Stimulus.Decimal.Digits

/-!
TOML values as text.  The readers here take a value or a key off the front of a text; none stands
for a text that has none there.
-/

namespace Stimulus.Toml

inductive Value where
  | string (value : String)
  | integer (value : Int)
  | float (value : Decimal.Extended)
  | boolean (value : Bool)
  | datetime
  | array (items : List Value)
  /-- The fields in the order in which they came. -/
  | table (fields : List (String × Value))

/-- A reader of something at the front of a text, which gives it with what follows. -/
abbrev Reader (α : Type) := List Char → Option (α × List Char)

/-! ## Blanks and lines -/

def isBlank (c : Char) : Bool := c == ' ' || c == '\t'

def skipBlanks (text : List Char) : List Char := text.dropWhile isBlank

/-- A character that can stand in a comment or string; line ends and other control characters
cannot. -/
def isTextChar (c : Char) : Bool :=
  c == '\t' || (0x20 ≤ c.toNat && c.toNat != 0x7F)

/-- A text without the comment at its front, if there is one. -/
def skipComment (text : List Char) : List Char :=
  match text with
  | '#' :: rest => rest.dropWhile isTextChar
  | text => text

/-- A text behind the line end at its front. -/
def newLine? : List Char → Option (List Char)
  | '\n' :: rest => some rest
  | '\r' :: '\n' :: rest => some rest
  | _ => none

/-- A text behind the end of a line, which may have blanks and a comment before it. -/
def endLine? (text : List Char) : Option (List Char) :=
  match skipComment (skipBlanks text) with
  | [] => some []
  | rest => newLine? rest

/-- A text behind blanks, comments and line ends. -/
def skipLines : Nat → List Char → List Char
  | 0, text => text
  | fuel + 1, text =>
    let rest := skipComment (skipBlanks text)
    match newLine? rest with
    | some rest => skipLines fuel rest
    | none => rest

/-! ## Strings -/

/-- The character that a number of hexadecimal digits stands for. -/
def unicode? (digits : List Char) : Option Char := do
  let n ← Decimal.value? 16 digits
  if (0xD800 ≤ n ∧ n ≤ 0xDFFF) ∨ 0x10FFFF < n then none else some (Char.ofNat n)

/-- The character of an escape whose backslash is passed. -/
def readEscape : Reader Char
  | 'b' :: rest => some ('\x08', rest)
  | 't' :: rest => some ('\t', rest)
  | 'n' :: rest => some ('\n', rest)
  | 'f' :: rest => some ('\x0c', rest)
  | 'r' :: rest => some ('\r', rest)
  | '"' :: rest => some ('"', rest)
  | '\\' :: rest => some ('\\', rest)
  | 'u' :: rest =>
    if rest.length < 4 then none else (unicode? (rest.take 4)).map (·, rest.drop 4)
  | 'U' :: rest =>
    if rest.length < 8 then none else (unicode? (rest.take 8)).map (·, rest.drop 8)
  | _ => none

/-- A string on one line up to its closing quote, what is read being in reverse.  Only double
quotes know escapes. -/
def readLine (quote : Char) : Nat → List Char → Reader String
  | 0, _, _ => none
  | fuel + 1, done, text =>
    match text with
    | [] => none
    | c :: rest =>
      if c = quote then some (String.ofList done.reverse, rest)
      else if c = '\\' ∧ quote = '"' then do
        let (c, rest) ← readEscape rest
        readLine quote fuel (c :: done) rest
      else if isTextChar c then readLine quote fuel (c :: done) rest
      else none

/-- The lines behind a backslash that ends one, up to the next character that is no blank. -/
def skipFolded : Nat → List Char → List Char
  | 0, text => text
  | fuel + 1, text =>
    let rest := skipBlanks text
    match newLine? rest with
    | some rest => skipFolded fuel rest
    | none => rest

/-- A string on several lines up to its three closing quotes, which up to two more may stand
before. -/
def readLines (quote : Char) : Nat → List Char → Reader String
  | 0, _, _ => none
  | fuel + 1, done, text =>
    match text with
    | [] => none
    | c :: rest =>
      if c = quote then
        let quotes := (text.takeWhile (· = quote)).length
        if quotes < 3 then readLines quote fuel (c :: done) rest
        else if 5 < quotes then none
        else
          let inner := List.replicate (quotes - 3) quote
          some (String.ofList (done.reverse ++ inner), text.drop quotes)
      else if c = '\\' ∧ quote = '"' then
        if (newLine? (skipBlanks rest)).isSome then
          readLines quote fuel done (skipFolded rest.length rest)
        else do
          let (c, rest) ← readEscape rest
          readLines quote fuel (c :: done) rest
      else
        match newLine? text with
        | some rest => readLines quote fuel ('\n' :: done) rest
        | none => if isTextChar c then readLines quote fuel (c :: done) rest else none

/-- A string at its opening quotes; a line end right behind three of them is dropped. -/
def readString (text : List Char) : Option (String × List Char) :=
  match text with
  | a :: b :: c :: rest =>
    if (a = '"' ∨ a = '\'') ∧ b = a ∧ c = a then
      readLines a (rest.length + 1) [] ((newLine? rest).getD rest)
    else if a = '"' ∨ a = '\'' then readLine a (rest.length + 3) [] (b :: c :: rest)
    else none
  | a :: rest => if a = '"' ∨ a = '\'' then readLine a (rest.length + 1) [] rest else none
  | [] => none

/-! ## Keys -/

def isKeyChar (c : Char) : Bool :=
  c.isAlphanum || c == '_' || c == '-'

/-- One part of a key: bare, or quoted on one line. -/
def readKeyPart (text : List Char) : Option (String × List Char) :=
  match text with
  | [] => none
  | c :: rest =>
    if c = '"' ∨ c = '\'' then readLine c (rest.length + 1) [] rest
    else
      match text.span isKeyChar with
      | ([], _) => none
      | (name, rest) => some (String.ofList name, rest)

/-- A key: parts with points between them, and blanks around each. -/
def readKey : Nat → Reader (List String)
  | 0, _ => none
  | fuel + 1, text => do
    let (part, rest) ← readKeyPart (skipBlanks text)
    match skipBlanks rest with
    | '.' :: rest => do
      let (parts, rest) ← readKey fuel rest
      some (part :: parts, rest)
    | rest => some ([part], rest)

/-! ## Numbers and times -/

/-- Digits of a base, each single underscore between two of them left out. -/
def readDigits (base : Nat) : Nat → Reader (List Char)
  | 0, _ => none
  | fuel + 1, text =>
    let digits := text.takeWhile fun c => (Decimal.digit? base c).isSome
    if digits.isEmpty then none
    else
      match text.drop digits.length with
      | '_' :: rest => do
        let (more, rest) ← readDigits base fuel rest
        some (digits ++ more, rest)
      | rest => some (digits, rest)

/-- Decimal digits without a zero before others. -/
def readWhole (text : List Char) : Option (List Char × List Char) := do
  match text with
  | '0' :: rest => if rest.head?.any fun c => c.isDigit || c == '_' then none else some (['0'], rest)
  | text => readDigits 10 text.length text

/-- A sign, which may be left out. -/
def readSign : List Char → Bool × List Char
  | '-' :: rest => (true, rest)
  | '+' :: rest => (false, rest)
  | rest => (false, rest)

/-- The whole number, if it has at most 64 bits with its sign. -/
def inRange? (value : Int) : Option Int :=
  if -0x8000000000000000 ≤ value ∧ value < 0x8000000000000000 then some value else none

def readInteger (text : List Char) : Option (Value × List Char) := do
  let based (base : Nat) (rest : List Char) : Option (Value × List Char) := do
    let (digits, rest) ← readDigits base rest.length rest
    some (.integer (← inRange? (← Decimal.value? base digits)), rest)
  match text with
  | '0' :: 'x' :: rest => based 16 rest
  | '0' :: 'o' :: rest => based 8 rest
  | '0' :: 'b' :: rest => based 2 rest
  | text =>
    let (negative, rest) := readSign text
    let (digits, rest) ← readWhole rest
    let n : Int := Decimal.value digits
    some (.integer (← inRange? (if negative then -n else n)), rest)

def readExponent (text : List Char) : Option (Int × List Char) :=
  match text with
  | c :: rest =>
    if c = 'e' ∨ c = 'E' then do
      let (negative, rest) := readSign rest
      let (digits, rest) ← readDigits 10 rest.length rest
      let n : Int := Decimal.value digits
      some (if negative then -n else n, rest)
    else none
  | [] => none

/-- A number beyond the greatest one is refused, and one beyond the least is minus infinity. -/
def ofOverflow (negative : Bool) : Option Decimal.Extended :=
  if negative then some (.infinite true) else none

/-- A number with a fraction, an exponent or both. -/
def readFloat (text : List Char) : Option (Value × List Char) := do
  let (negative, rest) := readSign text
  match rest with
  | 'i' :: 'n' :: 'f' :: rest => some (.float (.infinite negative), rest)
  | 'n' :: 'a' :: 'n' :: rest => some (.float .notANumber, rest)
  | rest =>
    let (whole, rest) ← readWhole rest
    let (fraction, rest) ← (match rest with
      | '.' :: rest => readDigits 10 rest.length rest
      | rest => some ([], rest))
    let exponent := readExponent rest
    if fraction.isEmpty ∧ exponent.isNone then none
    else
      let (power, rest) := exponent.getD (0, rest)
      let value := Decimal.Binary64.ofDecimal negative (Decimal.value (whole ++ fraction))
        (power - fraction.length)
      some (.float (← (value.map .finite).or (ofOverflow negative)), rest)

/-- A number of exactly so many digits within bounds. -/
def readField (width least greatest : Nat) (text : List Char) : Option (Nat × List Char) :=
  let digits := text.take width
  if digits.length < width ∨ !digits.all Char.isDigit then none
  else
    let n := Decimal.value digits
    if least ≤ n ∧ n ≤ greatest then some (n, text.drop width) else none

/-- A text behind one character that must stand at its front. -/
def expect? (c : Char) : List Char → Option (List Char)
  | d :: rest => if d = c then some rest else none
  | [] => none

def daysOf (year month : Nat) : Nat :=
  match month with
  | 2 => if year % 4 = 0 ∧ (year % 100 ≠ 0 ∨ year % 400 = 0) then 29 else 28
  | 4 | 6 | 9 | 11 => 30
  | _ => 31

def date? (text : List Char) : Option (List Char) := do
  let (year, rest) ← readField 4 0 9999 text
  let (month, rest) ← readField 2 1 12 (← expect? '-' rest)
  let (_, rest) ← readField 2 1 (daysOf year month) (← expect? '-' rest)
  some rest

def time? (text : List Char) : Option (List Char) := do
  let (_, rest) ← readField 2 0 23 text
  let (_, rest) ← readField 2 0 59 (← expect? ':' rest)
  let (_, rest) ← readField 2 0 60 (← expect? ':' rest)
  match rest with
  | '.' :: c :: fraction => if c.isDigit then some (fraction.dropWhile Char.isDigit) else none
  | '.' :: [] => none
  | rest => some rest

/-- A text behind the offset of a time, if it has one. -/
def skipOffset (text : List Char) : List Char :=
  match text with
  | 'Z' :: rest | 'z' :: rest => rest
  | c :: rest =>
    if c = '+' ∨ c = '-' then
      ((do
        let (_, rest) ← readField 2 0 23 rest
        let (_, rest) ← readField 2 0 59 (← expect? ':' rest)
        some rest) : Option (List Char)).getD text
    else text
  | [] => []

/-- A date, a time, or both. -/
def readTime (text : List Char) : Option (Value × List Char) :=
  match date? text with
  | some rest =>
    match rest with
    | c :: time =>
      if c = 'T' ∨ c = 't' ∨ c = ' ' then
        match time? time with
        | some rest => some (.datetime, skipOffset rest)
        | none => some (.datetime, rest)
      else some (.datetime, rest)
    | [] => some (.datetime, [])
  | none => (time? text).map (.datetime, ·)

end Stimulus.Toml
