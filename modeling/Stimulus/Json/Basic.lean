import Stimulus.Decimal.Binary64
import Stimulus.Keyed

/-!
JSON values.  The members of an object stand in the order of their names, each name once
(`Json.ofMembers`), so equal objects are equal values.
-/

namespace Stimulus

/-- A number: whole numbers are kept apart from floating point ones. -/
inductive Number where
  | integer (value : Int)
  | float (value : Decimal.Binary64)
  deriving DecidableEq

/-- A JSON value. -/
inductive Json where
  | null
  | boolean (value : Bool)
  | number (value : Number)
  | string (value : String)
  | array (items : List Json)
  | object (members : List (String × Json))

namespace Json

instance : Inhabited Json := ⟨null⟩

/-- The object with these members, the last value of a name standing. -/
def ofMembers (members : List (String × Json)) : Json :=
  .object (Keyed.ofList members)

/-- The member of an object under `name`; no other value has members. -/
def member? (name : String) : Json → Option Json
  | .object members => Keyed.get? name members
  | _ => none

/-- The text of a string value. -/
def string? : Json → Option String
  | .string s => some s
  | _ => none

end Json

end Stimulus
