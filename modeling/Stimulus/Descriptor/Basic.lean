import Stimulus.Json.Basic
import Stimulus.Text.Blank

/-!
One entry of a test case table: the request that triggers a step, and the step that follows.
-/

namespace Stimulus

inductive Method where
  | get
  | put
  | post
  | delete
  deriving DecidableEq

namespace Method

def name : Method → String
  | get => "GET"
  | put => "PUT"
  | post => "POST"
  | delete => "DELETE"

def all : List Method := [get, put, post, delete]

def ofName? (name : String) : Option Method :=
  all.find? (·.name = name)

/-- Whether requests of this method carry a payload. -/
def carriesBody : Method → Bool
  | put | post => true
  | get | delete => false

theorem ofName?_name (m : Method) : ofName? m.name = some m := by
  cases m <;> decide

end Method

/-- The encoding that the server is asked to use for a value. -/
inductive ContentFormat where
  | text
  | tlv
  | json
  /-- The choice is the server's. -/
  | unspecified
  deriving DecidableEq

namespace ContentFormat

/-- The value of the `format` parameter, if there is one. -/
def parameter : ContentFormat → Option String
  | text => some "Text"
  | tlv => some "TLV"
  | json => some "JSON"
  | unspecified => none

def name (format : ContentFormat) : String :=
  format.parameter.getD "none"

/-- The names a format can be given by; an empty one leaves the choice to the server. -/
def names : List String := ["Text", "TLV", "JSON", "", "none"]

def ofName? : String → Option ContentFormat
  | "Text" => some text
  | "TLV" => some tlv
  | "JSON" => some json
  | "" | "none" => some unspecified
  | _ => none

theorem ofName?_name (f : ContentFormat) : ofName? f.name = some f := by
  cases f <;> decide

end ContentFormat

/-- The request of one step. -/
structure Descriptor where
  description : Option String
  method : Method
  /-- The resource path, possibly with a query. -/
  path : String
  format : ContentFormat
  payload : Option Json
  /-- The test case to run right after this one. -/
  next : Option String

namespace Descriptor

/-- What can be wrong with an entry on its own. -/
inductive Problem where
  | emptyPath
  | blankInPath (path : String)
  | payloadWithout (method : Method)
  deriving DecidableEq

def Problem.message : Problem → String
  | emptyPath => "resource path is empty"
  | blankInPath path => "resource path '" ++ path ++ "' contains whitespace"
  | payloadWithout method => method.name ++ " requests cannot carry a payload"

/-- Everything that is wrong with an entry on its own. -/
def problems (d : Descriptor) : List Problem :=
  let path := Text.trim d.path
  (if path = "" ∨ path = "/" then [.emptyPath] else []) ++
    (if d.path.toList.any Text.isBlank then [.blankInPath d.path] else []) ++
    (if d.payload.isSome ∧ !d.method.carriesBody then [.payloadWithout d.method] else [])

/-- The body that the request carries. -/
def body (d : Descriptor) : Option Json :=
  if d.method.carriesBody then d.payload else none

end Descriptor

end Stimulus
