import Stimulus.Decode
import Stimulus.Yaml.Tree

/-!
The values of scalars.  A plain scalar without a tag is null, a boolean, a number or a text by the
form it is written in; quotes make every scalar a text, and a tag can ask for one of the types.
-/

namespace Stimulus.Yaml

inductive Atom where
  | null
  | boolean (value : Bool)
  /-- A whole number from `-2 ^ 63` to `2 ^ 64 - 1`. -/
  | integer (value : Int)
  /-- A whole number of more than 64 bits and at most 128. -/
  | wide (value : Int)
  | real (value : Decimal.Extended)
  | text (value : String)

namespace Atom

def isNull (text : String) : Bool :=
  ["null", "Null", "NULL", "~"].contains text

def boolean? (text : String) : Option Bool :=
  if ["true", "True", "TRUE"].contains text then some true
  else if ["false", "False", "FALSE"].contains text then some false
  else none

/-! ## Numbers -/

/-- More than one digit, the first of them a zero, behind an optional sign: such a scalar is a
text. -/
def isPaddedNumber (text : List Char) : Bool :=
  let digits := match text with
    | '+' :: rest | '-' :: rest => rest
    | text => text
  match digits with
  | '0' :: c :: rest => (c :: rest).all Char.isDigit
  | _ => false

/-- The magnitude of a whole number behind its sign: hexadecimal, octal, binary or decimal. -/
def magnitude? : List Char → Option Nat
  | '0' :: 'x' :: digits => Decimal.value? 16 digits
  | '0' :: 'o' :: digits => Decimal.value? 8 digits
  | '0' :: 'b' :: digits => Decimal.value? 2 digits
  | digits => Decimal.value? 10 digits

def whole? (text : List Char) : Option Int :=
  if isPaddedNumber text then none
  else
    match text with
    | '-' :: rest => (magnitude? rest).map fun n => -(n : Int)
    | '+' :: rest => (magnitude? rest).map fun n => (n : Int)
    | rest => (magnitude? rest).map fun n => (n : Int)

/-- The digits of a decimal number before and behind its point, at least one of them. -/
def mantissa? (text : List Char) : Option (List Char × List Char × List Char) :=
  let (whole, rest) := Decimal.spanDigits text
  let (fraction, rest) := match rest with
    | '.' :: rest => Decimal.spanDigits rest
    | rest => ([], rest)
  if whole.isEmpty && fraction.isEmpty then none else some (whole, fraction, rest)

/-- The exponent part that a text consists of; an empty one is zero. -/
def exponent? (text : List Char) : Option Int :=
  match text with
  | [] => some 0
  | c :: rest =>
    if c = 'e' ∨ c = 'E' then
      match rest with
      | '-' :: digits => (Decimal.value? 10 digits).map fun n => -(n : Int)
      | '+' :: digits => (Decimal.value? 10 digits).map fun n => (n : Int)
      | digits => (Decimal.value? 10 digits).map fun n => (n : Int)
    else none

/-- The finite number that a text is written as, rounded once; none beyond the greatest. -/
def finite? (text : List Char) : Option Decimal.Binary64 := do
  let (negative, magnitude) := match text with
    | '-' :: rest => (true, rest)
    | '+' :: rest => (false, rest)
    | rest => (false, rest)
  let (whole, fraction, rest) ← mantissa? magnitude
  let exponent ← exponent? rest
  Decimal.Binary64.ofDecimal negative (Decimal.value (whole ++ fraction))
    (exponent - fraction.length)

/-- The floating point number that a text is written as. -/
def real? (text : String) : Option Decimal.Extended :=
  if [".inf", ".Inf", ".INF", "+.inf", "+.Inf", "+.INF"].contains text then some (.infinite false)
  else if ["-.inf", "-.Inf", "-.INF"].contains text then some (.infinite true)
  else if [".nan", ".NaN", ".NAN"].contains text then some .notANumber
  else (finite? text.toList).map .finite

/-- A whole number by its size; none beyond 128 bits. -/
def ofWhole? (value : Int) : Option Atom :=
  if -0x8000000000000000 ≤ value ∧ value ≤ 0xFFFFFFFFFFFFFFFF then some (.integer value)
  else if -0x80000000000000000000000000000000 ≤ value ∧
      value ≤ 0xFFFFFFFFFFFFFFFFFFFFFFFFFFFFFFFF then some (.wide value)
  else none

/-- The whole number that a text is written as, if it has at most 128 bits. -/
def integer? (text : String) : Option Atom :=
  (whole? text.toList).bind ofWhole?

/-! ## Scalars -/

def ofPlain (text : String) : Atom :=
  if text.isEmpty || isNull text then .null
  else
    match boolean? text with
    | some value => .boolean value
    | none =>
      match integer? text with
      | some atom => atom
      | none =>
        if isPaddedNumber text.toList then .text text
        else
          match real? text with
          | some value => .real value
          | none => .text text

/-- The tags of the types that a scalar can be asked to have. -/
def typeTag (name : String) : String :=
  "tag:yaml.org,2002:" ++ name

/-- The tag was given by one exclamation mark, so it names no type of this library. -/
def isLocalTag (tag : String) : Bool :=
  tag.startsWith "!"

/-- A scalar whose text is not of the type that its tag asks for. -/
def refuse (text : String) (expected : String) : Decode.Cause :=
  .unreadable ("invalid value: string " ++ Text.quoted text ++ ", expected " ++ expected)

def ofScalar (tag : Option String) (text : String) (style : Style) : Except Decode.Cause Atom :=
  let require (value : Option Atom) (expected : String) : Except Decode.Cause Atom :=
    match value with
    | some atom => .ok atom
    | none => .error (refuse text expected)
  match tag with
  | none => .ok (if style = .plain then ofPlain text else .text text)
  | some tag =>
    if tag = typeTag "bool" then require ((boolean? text).map .boolean) "a boolean"
    else if tag = typeTag "int" then require (integer? text) "an integer"
    else if tag = typeTag "float" then require ((real? text).map .real) "a float"
    else if tag = typeTag "null" then require (if isNull text then some .null else none) "null"
    else if isLocalTag tag ∧ style = .plain then .ok (ofPlain text)
    else .ok (.text text)

def shape : Atom → Decode.Shape
  | null => .nothing "unit value"
  | boolean value => .boolean value
  | integer value => .integer value
  | wide value => .wideInteger value
  | real value => .floating value.text
  | text value => .string value

end Atom

end Stimulus.Yaml
