import Stimulus.Error
import Stimulus.Descriptor.Basic

/-!
Test case tables: entries by identifier, each identifier once and in order.  `chain` follows the
links from one entry to the next, and `validate` lists everything that would keep an entry from
being run.
-/

namespace Stimulus

/-- Entries in the order of their identifiers. -/
structure Table where
  name : String
  entries : List (String × Descriptor)
  sorted : Keyed.Sorted entries

/-- An entry to run, with its identifier. -/
abbrev Step := String × Descriptor

namespace Table

/-- The table of these entries; of two with the same identifier the later one stands. -/
def ofEntries (name : String) (entries : List (String × Descriptor)) : Table where
  name
  entries := Keyed.ofList entries
  sorted := Keyed.sorted_ofList entries

def size (table : Table) : Nat :=
  table.entries.length

def isEmpty (table : Table) : Bool :=
  table.entries.isEmpty

def ids (table : Table) : List String :=
  table.entries.map (·.1)

def get? (table : Table) (id : String) : Option Descriptor :=
  Keyed.get? id table.entries

def get (table : Table) (id : String) : Except Error Descriptor :=
  match table.get? id with
  | some descriptor => .ok descriptor
  | none => .error (.unknownTestCase id)

/-! ## Chains -/

inductive LinkProblem where
  /-- The chain comes back to an entry it has passed. -/
  | loopsBack (id : String)
  /-- The link leads out of the table. -/
  | unknownNext (id : String)
  deriving DecidableEq

def LinkProblem.message : LinkProblem → String
  | loopsBack id => "'then' chain loops back to " ++ id
  | unknownNext id => "'then' refers to unknown test case " ++ id

/-- The steps from `id` on, `seen` being the identifiers passed since `start`. -/
def walk (table : Table) (start : String) : Nat → List String → String → Except Error (List Step)
  | 0, _, id => .error (.invalidDescriptor start (LinkProblem.loopsBack id).message)
  | fuel + 1, seen, id =>
    match table.get? id with
    | none => .error (.unknownTestCase id)
    | some descriptor =>
      if seen.contains id then
        .error (.invalidDescriptor start (LinkProblem.loopsBack id).message)
      else
        match descriptor.next with
        | none => .ok [(id, descriptor)]
        | some next => do
          let steps ← walk table start fuel (id :: seen) next
          return (id, descriptor) :: steps

/-- The entry `id` and those that its links lead to, in order.  One look-up more than the table has
entries meets an unknown identifier or one that was passed. -/
def chain (table : Table) (id : String) : Except Error (List Step) :=
  table.walk id (table.size + 1) [] id

/-! ## Problems -/

def linkProblem? (table : Table) (id : String) (descriptor : Descriptor) : Option Error :=
  match descriptor.next with
  | none => none
  | some next =>
    match table.get? next with
    | none => some (.invalidDescriptor id (LinkProblem.unknownNext next).message)
    | some _ =>
      match table.chain id with
      | .ok _ => none
      | .error e => some e

def entryProblems (table : Table) (step : Step) : List Error :=
  let (id, descriptor) := step
  (if Text.isBlankText id then [.invalidDescriptor id "identifier is empty"] else []) ++
    descriptor.problems.map (fun problem => .invalidDescriptor id problem.message) ++
    (table.linkProblem? id descriptor).toList

/-- Everything that is wrong with the entries, in their order. -/
def validate (table : Table) : List Error :=
  table.entries.flatMap table.entryProblems

end Table

end Stimulus
