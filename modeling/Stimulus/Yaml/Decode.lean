import Stimulus.Yaml.Atom
import Stimulus.Descriptor.Decode

/-!
Reading typed values out of YAML.  A field of text takes the text of any scalar as it is written;
only the fields that may be left out look at it, and take a plain null for nothing.  Payloads take
on the JSON form of whatever they hold.
-/

namespace Stimulus.Yaml.Tree

open Decode (Cause Place Shape)

/-- The cause that a tree which is not there stands for. -/
def unread : Cause := .unreadable "malformed document"

/-- Fails because a value is not of the type expected. -/
def refuse {α : Type} (place : Place) (value : Tree) (expected : String) : Except Decode.Error α :=
  Decode.fail place <|
    match value with
    | .scalar tag text style =>
      match Atom.ofScalar tag text style with
      | .ok atom => .wrongType atom.shape expected
      | .error cause => cause
    | .sequence _ _ => .wrongType .sequence expected
    | .mapping _ _ => .wrongType .map expected
    | .broken => unread

def readText (expected : String) (place : Place) (value : Tree) : Except Decode.Error String :=
  match value with
  | .scalar _ text _ => .ok text
  | value => refuse place value expected

/-- Whether a value that may be left out is there. -/
def isPresent (place : Place) (value : Tree) : Except Decode.Error Bool :=
  match value with
  | .scalar tag text .plain =>
    match tag with
    | none => .ok (!(text.isEmpty || Atom.isNull text))
    | some tag =>
      if tag = Atom.typeTag "null" then
        if Atom.isNull text then .ok false else Decode.fail place (Atom.refuse text "null")
      else .ok true
  | .broken => Decode.fail place unread
  | _ => .ok true

/-- What `read` makes of a value that is there. -/
def readOptional {α : Type} (read : Place → Tree → Except Decode.Error α) (place : Place)
    (value : Tree) : Except Decode.Error (Option α) := do
  if ← isPresent place value then return some (← read place value) else return none

/-- The tag of a value if it is a local one. -/
def localTag? : Tree → Option String
  | .scalar tag _ _ | .sequence tag _ | .mapping tag _ => tag.filter Atom.isLocalTag
  | .broken => none

def tagName (tag : String) : String :=
  let name := tag.toList.tail
  if name.isEmpty then tag else String.ofList name

def readNothing (place : Place) (value : Tree) : Except Decode.Error Unit :=
  match value with
  | .scalar _ text style =>
    if style = .plain ∧ (text.isEmpty ∨ Atom.isNull text) then .ok ()
    else Decode.fail place (Atom.refuse text "null")
  | value => refuse place value "unit"

/-- A name among those known: the text of a scalar, or a local tag on nothing. -/
def readVariant (place : Place) (known : List String) (value : Tree) :
    Except Decode.Error String :=
  match value, localTag? value with
  | value, some tag => do
    let name := tagName tag
    if known.contains name then
      readNothing place value
      return name
    else Decode.fail place.parent (.unknownVariant name known)
  | .scalar _ text _, none =>
    if known.contains text then .ok text else Decode.fail place (.unknownVariant text known)
  | value, none => refuse place value "a YAML tag starting with '!'"

/-! ## Payloads -/

/-- The JSON form of a scalar; numbers that are not finite are `null`. -/
def atomJson : Atom → Except Cause Json
  | .null => .ok .null
  | .boolean value => .ok (.boolean value)
  | .integer value => .ok (.number (.integer value))
  | .wide _ => .error (.unreadable "JSON number out of range")
  | .real (.finite value) => .ok (.number (.float value))
  | .real _ => .ok .null
  | .text value => .ok (.string value)

/-- What a payload can hold, in messages. -/
def anyValue : String := "any valid JSON value"

mutual

def toJson (place : Place) : Tree → Except Decode.Error Json
  | .broken => Decode.fail place unread
  | .scalar tag text style =>
    if tag.any Atom.isLocalTag then Decode.fail place (.wrongType .tagged anyValue)
    else
      match (Atom.ofScalar tag text style).bind atomJson with
      | .ok value => .ok value
      | .error cause => Decode.fail place cause
  | .sequence tag items =>
    if tag.any Atom.isLocalTag then Decode.fail place (.wrongType .tagged anyValue)
    else do return .array (← itemsJson place 0 items)
  | .mapping tag entries =>
    if tag.any Atom.isLocalTag then Decode.fail place (.wrongType .tagged anyValue)
    else do return Json.ofMembers (← entriesJson place "a string key" entries)

def itemsJson (place : Place) (index : Nat) : List Tree → Except Decode.Error (List Json)
  | [] => .ok []
  | item :: rest => do
    let item ← toJson (.item place index) item
    return item :: (← itemsJson place (index + 1) rest)

/-- The members of an object; their names are the texts of the keys. -/
def entriesJson (place : Place) (expected : String) :
    List (Tree × Option String × Tree) → Except Decode.Error (List (String × Json))
  | [] => .ok []
  | (key, label, value) :: rest => do
    let name ← readText expected place key
    let value ← toJson (.member place label) value
    return (name, value) :: (← entriesJson place "a string" rest)

end

/-! ## Records -/

/-- The entries of a mapping; a plain scalar without text has none. -/
def entries? : Tree → Option (List (Tree × Option String × Tree))
  | .mapping _ entries => some entries
  | .scalar _ text style => if text.isEmpty ∧ style = .plain then some [] else none
  | _ => none

/-- The entries of a mapping that stands for a record or a map. -/
def readEntries (expected : String) (place : Place) (value : Tree) :
    Except Decode.Error (List ((Tree × Option String) × Tree)) :=
  match entries? value with
  | some entries => .ok (entries.map fun (key, label, value) => ((key, label), value))
  | none => refuse place value expected

/-- Keys of the mapping at `place`. -/
def keys (place : Place) : Decode.Keys (Tree × Option String) where
  name key := readText "field identifier" place key.1
  member key := .member place key.2

def source : Decode.Source Tree where
  string := readText "a string"
  string? := readOptional (readText "a string")
  variant := readVariant
  value? := readOptional toJson

end Stimulus.Yaml.Tree

namespace Stimulus

def Descriptor.ofTree (place : Decode.Place) (tree : Yaml.Tree) : Except Decode.Error Descriptor := do
  let fields ← tree.readEntries "struct RequestDescriptor" place
  Descriptor.ofFields Yaml.Tree.source (Yaml.Tree.keys place) place fields

/-- What `read` makes of the one document of a text; an empty text reads as an absent value. -/
def Yaml.decode {α : Type} (read : Yaml.Tree → Except Decode.Error α) (text : String) :
    Except Decode.Error α := do
  let document := Yaml.Document.parse text
  let value ← read (document.root.getD (.scalar none "" .plain))
  if document.alone then return value else Decode.fail .root Yaml.Tree.unread

def Descriptor.ofYaml (text : String) : Except Decode.Error Descriptor :=
  Yaml.decode (Descriptor.ofTree .root) text

end Stimulus
