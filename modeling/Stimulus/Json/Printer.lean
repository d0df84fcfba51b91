import Stimulus.Json.Basic
import Stimulus.Decimal.Shortest

/-!
JSON values as text.  `compact` writes no character between the tokens; `pretty` gives each item
and member a line of its own, indented by two spaces a level, and keeps empty arrays and objects
closed.
-/

namespace Stimulus.Json

/-- A digit of base sixteen in lower case. -/
def hexDigit (n : Nat) : Char :=
  Nat.digitChar n

/-- What a character of a string is written as. -/
def escapeChar (c : Char) : List Char :=
  match c with
  | '"' => ['\\', '"']
  | '\\' => ['\\', '\\']
  | '\x08' => ['\\', 'b']
  | '\x0c' => ['\\', 'f']
  | '\n' => ['\\', 'n']
  | '\r' => ['\\', 'r']
  | '\t' => ['\\', 't']
  | c =>
    if c.toNat < 0x20 then
      ['\\', 'u', '0', '0', hexDigit (c.toNat / 16), hexDigit (c.toNat % 16)]
    else [c]

/-- The text of a string, with its quotes. -/
def stringText (s : String) : List Char :=
  '"' :: s.toList.flatMap escapeChar ++ ['"']

/-- The text of a number. -/
def numberText : Number → List Char
  | .integer value => Decimal.ofInt value
  | .float value => Decimal.text .data value

def booleanText (value : Bool) : List Char :=
  if value then "true".toList else "false".toList

mutual

/-- The text of a value without blanks. -/
def compact : Json → List Char
  | .null => "null".toList
  | .boolean value => booleanText value
  | .number value => numberText value
  | .string value => stringText value
  | .array [] => ['[', ']']
  | .array (item :: rest) => '[' :: compact item ++ compactItems rest
  | .object [] => ['{', '}']
  | .object ((name, value) :: rest) =>
    '{' :: stringText name ++ ':' :: compact value ++ compactMembers rest

/-- The items behind the first one, and the closing bracket. -/
def compactItems : List Json → List Char
  | [] => [']']
  | item :: rest => ',' :: compact item ++ compactItems rest

/-- The members behind the first one, and the closing brace. -/
def compactMembers : List (String × Json) → List Char
  | [] => ['}']
  | (name, value) :: rest =>
    ',' :: stringText name ++ ':' :: compact value ++ compactMembers rest

end

/-- A new line at a level of nesting. -/
def newLine (level : Nat) : List Char :=
  '\n' :: List.replicate (2 * level) ' '

mutual

/-- The text of a value that stands at a level of nesting, on as many lines as it has parts. -/
def pretty (level : Nat) : Json → List Char
  | .null => "null".toList
  | .boolean value => booleanText value
  | .number value => numberText value
  | .string value => stringText value
  | .array [] => ['[', ']']
  | .array (item :: rest) =>
    '[' :: newLine (level + 1) ++ pretty (level + 1) item ++ prettyItems level rest
  | .object [] => ['{', '}']
  | .object ((name, value) :: rest) =>
    '{' :: newLine (level + 1) ++ stringText name ++ ':' :: ' ' :: pretty (level + 1) value ++
      prettyMembers level rest

/-- The items behind the first one, and the closing bracket on its line. -/
def prettyItems (level : Nat) : List Json → List Char
  | [] => newLine level ++ [']']
  | item :: rest =>
    ',' :: newLine (level + 1) ++ pretty (level + 1) item ++ prettyItems level rest

/-- The members behind the first one, and the closing brace on its line. -/
def prettyMembers (level : Nat) : List (String × Json) → List Char
  | [] => newLine level ++ ['}']
  | (name, value) :: rest =>
    ',' :: newLine (level + 1) ++ stringText name ++ ':' :: ' ' :: pretty (level + 1) value ++
      prettyMembers level rest

end

/-- The value on one line. -/
def text (value : Json) : String :=
  String.ofList (compact value)

/-- The value on as many lines as it has parts. -/
def prettyText (value : Json) : String :=
  String.ofList (pretty 0 value)

end Stimulus.Json
