import Stimulus.Decode
import Stimulus.Descriptor.Basic

/-!
Reading an entry from a document.  What a document is made of is left open: a `Source` says how the
values of one kind of document are read, and the rules for the fields of an entry are the same for
all of them.
-/

namespace Stimulus

/-- How the values of one kind of document are read. -/
structure Decode.Source (σ : Type) where
  string : Decode.Place → σ → Except Decode.Error String
  /-- A string, or nothing. -/
  string? : Decode.Place → σ → Except Decode.Error (Option String)
  /-- One of the given names. -/
  variant : Decode.Place → List String → σ → Except Decode.Error String
  /-- Any value, or nothing. -/
  value? : Decode.Place → σ → Except Decode.Error (Option Json)

namespace Descriptor

/-- The fields of an entry, in the order in which they are declared. -/
def fieldNames : List String :=
  ["description", "method", "path", "format", "payload", "then"]

/-- An entry some of whose fields are read. -/
structure Draft where
  description : Option (Option String)
  method : Option Method
  path : Option String
  format : Option ContentFormat
  payload : Option (Option Json)
  next : Option (Option String)

namespace Draft

def empty : Draft := ⟨none, none, none, none, none, none⟩

/-- The field is read. -/
def has (draft : Draft) : String → Bool
  | "description" => draft.description.isSome
  | "method" => draft.method.isSome
  | "path" => draft.path.isSome
  | "format" => draft.format.isSome
  | "payload" => draft.payload.isSome
  | "then" => draft.next.isSome
  | _ => false

/-- The entry with one more field; a name that is no field's adds nothing. -/
def add {σ : Type} (source : Decode.Source σ) (draft : Draft) (name : String)
    (place : Decode.Place) (value : σ) : Except Decode.Error Draft :=
  match name with
  | "description" => do return { draft with description := some (← source.string? place value) }
  | "method" => do
    let name ← source.variant place (Method.all.map Method.name) value
    return { draft with method := Method.ofName? name }
  | "path" => do return { draft with path := some (← source.string place value) }
  | "format" => do
    let name ← source.variant place ContentFormat.names value
    return { draft with format := ContentFormat.ofName? name }
  | "payload" => do return { draft with payload := some (← source.value? place value) }
  | "then" => do return { draft with next := some (← source.string? place value) }
  | _ => .ok draft

/-- The entry, once every required field is read; a field that was left out is absent. -/
def finish (place : Decode.Place) (draft : Draft) : Except Decode.Error Descriptor :=
  match draft.method, draft.path with
  | none, _ => Decode.fail place (.missingField "method")
  | _, none => Decode.fail place (.missingField "path")
  | some method, some path =>
    .ok {
      description := draft.description.join
      method
      path
      format := draft.format.getD .unspecified
      payload := draft.payload.join
      next := draft.next.join }

end Draft

/-- An entry from the fields of the map at `place`. -/
def ofFields {κ σ : Type} (source : Decode.Source σ) (keys : Decode.Keys κ)
    (place : Decode.Place) (fields : List (κ × σ)) : Except Decode.Error Descriptor := do
  let draft ← Decode.readFields keys place fieldNames Draft.has (Draft.add source) .empty fields
  draft.finish place

end Descriptor

end Stimulus
