import Stimulus.Text.Quoted
import Stimulus.Decimal.Shortest

/-!
Errors of documents that are well formed and hold the wrong thing: what was found, what was
expected, and where.  Every reader of tables, configurations and client lists fails with one of
these causes, so their texts agree.
-/

namespace Stimulus.Decode

/-- What stands in a document. -/
inductive Shape where
  /-- Nothing at all, called by the document's word for it. -/
  | nothing (word : String)
  | boolean (value : Bool)
  | integer (value : Int)
  /-- A whole number of more than 64 bits. -/
  | wideInteger (value : Int)
  | floating (text : List Char)
  | string (value : String)
  | sequence
  | map
  /-- A value with a tag that names no type. -/
  | tagged

def Shape.text : Shape → String
  | nothing word => word
  | boolean value => "boolean `" ++ (if value then "true" else "false") ++ "`"
  | integer value => "integer `" ++ String.ofList (Decimal.ofInt value) ++ "`"
  | wideInteger value =>
    "integer `" ++ String.ofList (Decimal.ofInt value) ++ "` as " ++
      (if value < 0 then "i128" else "u128")
  | floating text => "floating point `" ++ String.ofList text ++ "`"
  | string value => "string " ++ Text.quoted value
  | sequence => "sequence"
  | map => "map"
  | tagged => "enum"

/-- Why a value cannot be used. -/
inductive Cause where
  | wrongType (found : Shape) (expected : String)
  | wrongLength (length : Nat) (expected : String)
  | unknownField (name : String) (known : List String)
  | missingField (name : String)
  | duplicateField (name : String)
  | unknownVariant (name : String) (known : List String)
  /-- The document is malformed, or a value is outside what its type can hold. -/
  | unreadable (detail : String)

def ticked (name : String) : String :=
  "`" ++ name ++ "`"

/-- The names that could have stood in a place. -/
def alternatives : List String → String
  | [a] => ticked a
  | [a, b] => ticked a ++ " or " ++ ticked b
  | names => "one of " ++ String.intercalate ", " (names.map ticked)

def Cause.text : Cause → String
  | wrongType found expected => "invalid type: " ++ found.text ++ ", expected " ++ expected
  | wrongLength length expected =>
    "invalid length " ++ String.ofList (Decimal.ofNat length) ++ ", expected " ++ expected
  | unknownField name known =>
    "unknown field " ++ ticked name ++ ", expected " ++ alternatives known
  | missingField name => "missing field " ++ ticked name
  | duplicateField name => "duplicate field " ++ ticked name
  | unknownVariant name known =>
    "unknown variant " ++ ticked name ++ ", expected " ++ alternatives known
  | unreadable detail => detail

inductive Place where
  | root
  /-- The value under a key; none if the key has no text of its own. -/
  | member (parent : Place) (key : Option String)
  | item (parent : Place) (index : Nat)

namespace Place

def parent : Place → Place
  | root => root
  | member parent _ => parent
  | item parent _ => parent

def text : Place → String
  | root => "."
  | member root key => key.getD "?"
  | member parent key => parent.text ++ "." ++ key.getD "?"
  | item parent index => parent.text ++ "[" ++ String.ofList (Decimal.ofNat index) ++ "]"

end Place

structure Error where
  place : Place
  cause : Cause

/-- The cause behind its place; the root is not named. -/
def Error.message (e : Error) : String :=
  if e.place.text = "." then e.cause.text else e.place.text ++ ": " ++ e.cause.text

def fail {α : Type} (place : Place) (cause : Cause) : Except Error α :=
  .error ⟨place, cause⟩

/-! ## Records

A record is read from a map field by field, in the order of the map.  A field that is not known or
comes twice is refused where it is met. -/

/-- How the keys of one kind of map are read. -/
structure Keys (κ : Type) where
  name : κ → Except Error String
  member : κ → Place

/-- Adds the fields of the map at `place` one by one to what is read so far. -/
def readFields {κ σ δ : Type} (keys : Keys κ) (place : Place) (known : List String)
    (has : δ → String → Bool) (add : δ → String → Place → σ → Except Error δ) :
    δ → List (κ × σ) → Except Error δ
  | draft, [] => .ok draft
  | draft, (key, value) :: rest => do
    let name ← keys.name key
    if !known.contains name then fail place (.unknownField name known)
    else if has draft name then fail place (.duplicateField name)
    else readFields keys place known has add (← add draft name (keys.member key) value) rest

end Stimulus.Decode
