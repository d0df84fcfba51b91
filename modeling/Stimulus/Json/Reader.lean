import Stimulus.Json.Basic
import Stimulus.Decimal.Digits

/-!
Reading JSON text.  The grammar is the strict one: no comments, no trailing commas, no leading
zeros, no lone surrogates, nothing behind the value but blanks.  Beyond the grammar, values nest
fewer than 128 levels deep and numbers are finite.  Whole numbers from `-2 ^ 63` to `2 ^ 64 - 1`
stay whole, and every other number, negative zero among them, is a floating point one.
-/

namespace Stimulus.Json

/-- Why a text is not read as a value. -/
inductive Fault where
  | malformed
  /-- The value is followed by something else. -/
  | trailing
  /-- A number is too large for a finite one. -/
  | outOfRange
  | tooDeep
  deriving DecidableEq

def Fault.message : Fault → String
  | malformed => "malformed value"
  | trailing => "trailing characters"
  | outOfRange => "number out of range"
  | tooDeep => "recursion limit exceeded"

/-! ## Blanks and strings -/

def isSpace (c : Char) : Bool :=
  c == ' ' || c == '\t' || c == '\n' || c == '\r'

def skipSpace (text : List Char) : List Char :=
  text.dropWhile isSpace

def hex4? (a b c d : Char) : Option Nat :=
  Decimal.value? 16 [a, b, c, d]

/-- The character of two surrogates. -/
def joinSurrogates (high low : Nat) : Char :=
  Char.ofNat (0x10000 + (high - 0xD800) * 0x400 + (low - 0xDC00))

def isHighSurrogate (n : Nat) : Bool := 0xD800 ≤ n && n < 0xDC00

def isLowSurrogate (n : Nat) : Bool := 0xDC00 ≤ n && n < 0xE000

/-- The character that a letter behind a backslash stands for. -/
def unescape? : Char → Option Char
  | '"' => some '"'
  | '\\' => some '\\'
  | '/' => some '/'
  | 'b' => some '\x08'
  | 'f' => some '\x0c'
  | 'n' => some '\n'
  | 'r' => some '\r'
  | 't' => some '\t'
  | _ => none

/-- The characters of a string up to its closing quote, and what follows. -/
def readString : List Char → Option (List Char × List Char)
  | [] => none
  | '"' :: rest => some ([], rest)
  | '\\' :: 'u' :: a :: b :: c :: d :: rest => do
    let n ← hex4? a b c d
    if isHighSurrogate n then
      match rest with
      | '\\' :: 'u' :: e :: f :: g :: h :: rest => do
        let low ← hex4? e f g h
        if isLowSurrogate low then
          let (tail, rest) ← readString rest
          some (joinSurrogates n low :: tail, rest)
        else none
      | _ => none
    else if isLowSurrogate n then none
    else
      let (tail, rest) ← readString rest
      some (Char.ofNat n :: tail, rest)
  | '\\' :: c :: rest => do
    let c ← unescape? c
    let (tail, rest) ← readString rest
    some (c :: tail, rest)
  | c :: rest => do
    if c = '\\' ∨ c.toNat < 0x20 then none
    else
      let (tail, rest) ← readString rest
      some (c :: tail, rest)

/-! ## Numbers -/

def greatestInteger : Nat := 0xFFFFFFFFFFFFFFFF

/-- Digits taken into a significand while it stays in range: the significand, and how many digits
it took. -/
def absorb (significand : Nat) : List Char → Nat × Nat
  | [] => (significand, 0)
  | c :: rest =>
    let next := significand * 10 + (Decimal.digit? 10 c).getD 0
    if greatestInteger < next then (significand, 0)
    else
      let (significand, count) := absorb next rest
      (significand, count + 1)

/-- A power of ten within the range of floating point numbers. -/
def powerOfTen (k : Nat) : Decimal.Binary64 :=
  (Decimal.Binary64.ofDecimal false 1 k).getD default

/-- `x · 10 ^ power`: the product or quotient by a power of ten is rounded, those below
`10 ^ -308` one step of `10 ^ 308` at a time. -/
def shiftDecimal : Nat → Decimal.Binary64 → Int → Option Decimal.Binary64
  | 0, x, _ => some x
  | fuel + 1, x, power =>
    if power.natAbs ≤ 308 then
      if 0 ≤ power then x.mul (powerOfTen power.natAbs) else x.div (powerOfTen power.natAbs)
    else if x.significand = 0 then some x
    else if 0 ≤ power then none
    else do shiftDecimal fuel (← x.div (powerOfTen 308)) (power + 308)

/-- The number `±significand · 10 ^ power`; three steps take the greatest significand to zero. -/
def ofParts (negative : Bool) (significand : Nat) (power : Int) : Except Fault Number :=
  match (Decimal.Binary64.ofNat significand).bind fun x => shiftDecimal 4 x power with
  | some x => .ok (.float { x with negative })
  | none => .error .outOfRange

/-- The greatest exponent that is taken at its value. -/
def greatestPower : Nat := 0x7FFFFFFF

/-- The sign and the digits of an exponent part, and what follows; none if there is none. -/
def readExponent (text : List Char) : Except Fault (Option (Bool × Nat) × List Char) :=
  match text with
  | c :: rest =>
    if c = 'e' ∨ c = 'E' then
      let (negative, rest) := match rest with
        | '+' :: rest => (false, rest)
        | '-' :: rest => (true, rest)
        | rest => (false, rest)
      match Decimal.spanDigits rest with
      | ([], _) => .error .malformed
      | (digits, rest) => .ok (some (negative, Decimal.value digits), rest)
    else .ok (none, text)
  | [] => .ok (none, [])

/-- The digits of a fraction, and what follows; none if there is no point. -/
def readFraction (text : List Char) : Except Fault (Option (List Char) × List Char) :=
  match text with
  | '.' :: rest =>
    match Decimal.spanDigits rest with
    | ([], _) => .error .malformed
    | (digits, rest) => .ok (some digits, rest)
  | text => .ok (none, text)

/-- The value of a number without fraction and exponent: whole if it is in range. -/
def ofWhole (negative : Bool) (significand power : Nat) : Except Fault Number :=
  if power ≠ 0 then ofParts negative significand power
  else if !negative then .ok (.integer significand)
  else if significand = 0 ∨ 0x8000000000000000 < significand then ofParts true significand 0
  else .ok (.integer (-(significand : Int)))

/-- The value of a number with a fraction or an exponent. -/
def ofFloating (negative : Bool) (significand : Nat) (power : Int)
    (exponent : Option (Bool × Nat)) : Except Fault Number :=
  match exponent with
  | none => ofParts negative significand power
  | some (minus, n) =>
    if greatestPower < n then
      if significand ≠ 0 ∧ !minus then .error .outOfRange else ofParts negative 0 0
    else ofParts negative significand (if minus then power - n else power + n)

def readMagnitude (negative : Bool) (text : List Char) : Except Fault (Number × List Char) := do
  let (whole, rest) := Decimal.spanDigits text
  match whole with
  | [] => .error .malformed
  | '0' :: _ :: _ => .error .malformed
  | _ =>
    let (significand, count) := absorb 0 whole
    let overflow := whole.length - count
    let (fraction, rest) ← readFraction rest
    let (exponent, rest) ← readExponent rest
    match fraction, exponent with
    | none, none => return (← ofWhole negative significand overflow, rest)
    | fraction, exponent =>
      let (significand, count) := absorb significand (fraction.getD [])
      return (← ofFloating negative significand ((overflow : Int) - count) exponent, rest)

def readNumber : List Char → Except Fault (Number × List Char)
  | '-' :: rest => readMagnitude true rest
  | text => readMagnitude false text

/-! ## Values -/

mutual

/-- A value at the front of a text, and what follows; `depth` more levels may open. -/
def readValue : Nat → Nat → List Char → Except Fault (Json × List Char)
  | 0, _, _ => .error .malformed
  | fuel + 1, depth, text =>
    match skipSpace text with
    | 'n' :: 'u' :: 'l' :: 'l' :: rest => .ok (.null, rest)
    | 't' :: 'r' :: 'u' :: 'e' :: rest => .ok (.boolean true, rest)
    | 'f' :: 'a' :: 'l' :: 's' :: 'e' :: rest => .ok (.boolean false, rest)
    | '"' :: rest =>
      match readString rest with
      | some (s, rest) => .ok (.string (String.ofList s), rest)
      | none => .error .malformed
    | '[' :: rest =>
      match depth with
      | 0 => .error .tooDeep
      | depth + 1 =>
        match skipSpace rest with
        | ']' :: rest => .ok (.array [], rest)
        | rest => do
          let (items, rest) ← readItems fuel depth rest
          return (.array items, rest)
    | '{' :: rest =>
      match depth with
      | 0 => .error .tooDeep
      | depth + 1 =>
        match skipSpace rest with
        | '}' :: rest => .ok (.object [], rest)
        | rest => do
          let (members, rest) ← readMembers fuel depth rest
          return (ofMembers members, rest)
    | rest => do
      let (n, rest) ← readNumber rest
      return (.number n, rest)

/-- The items of an array up to its closing bracket, at least one. -/
def readItems : Nat → Nat → List Char → Except Fault (List Json × List Char)
  | 0, _, _ => .error .malformed
  | fuel + 1, depth, text => do
    let (item, rest) ← readValue fuel depth text
    match skipSpace rest with
    | ',' :: rest =>
      let (items, rest) ← readItems fuel depth rest
      return (item :: items, rest)
    | ']' :: rest => return ([item], rest)
    | _ => .error .malformed

/-- The members of an object up to its closing brace, at least one. -/
def readMembers : Nat → Nat → List Char → Except Fault (List (String × Json) × List Char)
  | 0, _, _ => .error .malformed
  | fuel + 1, depth, text =>
    match skipSpace text with
    | '"' :: rest =>
      match readString rest with
      | none => .error .malformed
      | some (name, rest) =>
        match skipSpace rest with
        | ':' :: rest => do
          let (value, rest) ← readValue fuel depth rest
          let pair := (String.ofList name, value)
          match skipSpace rest with
          | ',' :: rest =>
            let (members, rest) ← readMembers fuel depth rest
            return (pair :: members, rest)
          | '}' :: rest => return ([pair], rest)
          | _ => .error .malformed
        | _ => .error .malformed
    | _ => .error .malformed

end

def greatestDepth : Nat := 127

/-- The value of a whole text.  Each character takes at most two steps of reading. -/
def parse (text : String) : Except Fault Json := do
  let chars := text.toList
  let (value, rest) ← readValue (2 * chars.length + 2) greatestDepth chars
  if (skipSpace rest).isEmpty then return value else .error .trailing

end Stimulus.Json
