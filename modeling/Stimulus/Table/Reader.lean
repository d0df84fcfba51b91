import Stimulus.Table.Basic
import Stimulus.Yaml.Decode

/-!
Reading tables from YAML: a mapping with the entries under `test_cases` and the name of the table,
if it has one, under `name`.
-/

namespace Stimulus.Table

open Decode (Place)

/-- The fields of a table, in the order in which they are declared. -/
def fieldNames : List String := ["name", "test_cases"]

/-- A table some of whose fields are read. -/
structure Draft where
  name : Option (Option String)
  entries : Option (List (String × Descriptor))

namespace Draft

def has (draft : Draft) : String → Bool
  | "name" => draft.name.isSome
  | "test_cases" => draft.entries.isSome
  | _ => false

/-- The entries by identifier. -/
def readEntries (place : Place) (value : Yaml.Tree) :
    Except Decode.Error (List (String × Descriptor)) := do
  let entries ← value.readEntries "a map" place
  entries.mapM fun ((key, label), value) => do
    let id ← Yaml.Tree.readText "a string" place key
    return (id, ← Descriptor.ofTree (.member place label) value)

/-- The table with one more field; a name that is no field's adds nothing. -/
def add (draft : Draft) (name : String) (place : Place) (value : Yaml.Tree) :
    Except Decode.Error Draft :=
  match name with
  | "name" => do return { draft with name := some (← Yaml.Tree.source.string? place value) }
  | "test_cases" => do return { draft with entries := some (← readEntries place value) }
  | _ => .ok draft

/-- The table, once its entries are read. -/
def finish (draft : Draft) : Except Decode.Error Table :=
  match draft.entries with
  | none => Decode.fail .root (.missingField "test_cases")
  | some entries => .ok (ofEntries (draft.name.join.getD "unnamed") entries)

end Draft

/-- The table that a mapping holds. -/
def ofTree (tree : Yaml.Tree) : Except Decode.Error Table := do
  let fields ← tree.readEntries "struct TableFile" .root
  let draft ← Decode.readFields (Yaml.Tree.keys .root) .root fieldNames Draft.has Draft.add
    ⟨none, none⟩ fields
  draft.finish

def decode (text : String) : Except Decode.Error Table :=
  Yaml.decode ofTree text

def parse (text : String) : Except Error Table :=
  (decode text).mapError fun e => .tableParse e.message

end Stimulus.Table
