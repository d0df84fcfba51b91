import Stimulus.Descriptor.Decode

/-!
Reading typed values out of JSON.  Errors are not given a place, and a record may also be written
as an array of its fields in their order.
-/

namespace Stimulus.Json

open Decode (Cause Place Shape)

def shape : Json → Shape
  | .null => .nothing "null"
  | .boolean value => .boolean value
  | .number (.integer value) => .integer value
  | .number (.float value) => .floating (Decimal.text .data value)
  | .string value => .string value
  | .array _ => .sequence
  | .object _ => .map

/-- Fails because a value is not of the type expected. -/
def refuse {α : Type} (value : Json) (expected : String) : Except Decode.Error α :=
  Decode.fail .root (.wrongType value.shape expected)

def readText (value : Json) : Except Decode.Error String :=
  match value with
  | .string s => .ok s
  | value => refuse value "a string"

/-- A string, or nothing for `null`. -/
def readText? (value : Json) : Except Decode.Error (Option String) :=
  match value with
  | .null => .ok none
  | value => (readText value).map some

/-- A name among those known; it may also be the only member of an object, with the value `null`. -/
def readVariant (known : List String) (value : Json) : Except Decode.Error String :=
  let check (name : String) : Except Decode.Error String :=
    if known.contains name then .ok name
    else Decode.fail .root (.unknownVariant name known)
  match value with
  | .string name => check name
  | .object [(name, content)] => do
    let name ← check name
    match content with
    | .null => return name
    | content => refuse content "unit"
  | .object _ => Decode.fail .root (.unreadable "invalid value: map, expected map with a single key")
  | value => refuse value "string or map"

/-- How the values of a JSON document are read. -/
def source : Decode.Source Json where
  string _ := readText
  string? _ := readText?
  variant _ := readVariant
  value? _ value := .ok (match value with | .null => none | value => some value)

/-- Members have their names, and no place. -/
def keys : Decode.Keys String where
  name := .ok
  member _ := .root

/-- The fields of a record that is written as an array, if there are no more items than fields. -/
def readItemFields {δ : Type} (names : List String)
    (add : δ → String → Place → Json → Except Decode.Error δ) (draft : δ) (items : List Json) :
    Except Decode.Error δ :=
  (names.zip items).foldlM (fun draft (name, item) => add draft name .root item) draft

end Stimulus.Json

namespace Stimulus.Descriptor

/-- An entry written as an array: the first field that is required and not there is named by the
number of items before it. -/
def ofItems (items : List Json) : Except Decode.Error Descriptor := do
  let draft ← Json.readItemFields fieldNames (Draft.add Json.source) .empty items
  if items.length < 3 then
    Decode.fail .root
      (.wrongLength (items.length.max 1) "struct RequestDescriptor with 6 elements")
  else
    let descriptor ← draft.finish .root
    if fieldNames.length < items.length then
      Decode.fail .root (.wrongLength items.length "fewer elements in array")
    else return descriptor

/-- The entry that a JSON value holds. -/
def ofJson (value : Json) : Except Decode.Error Descriptor :=
  match value with
  | .object members => ofFields Json.source Json.keys .root members
  | .array items => ofItems items
  | value => Json.refuse value "struct RequestDescriptor"

end Stimulus.Descriptor
