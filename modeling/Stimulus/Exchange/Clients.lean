import Stimulus.Error
import Stimulus.Exchange.Session
import Stimulus.Json.Decode
import Stimulus.Json.Reader

/-!
The list of clients that a server reports.  `parseClients` reads all of it, for a tester to see;
`resolveEndpoint` looks only at the name of the first client, which requests are sent to.
-/

namespace Stimulus

structure Client where
  endpoint : String
  registrationId : Option String
  address : Option String
  version : Option String
  deriving DecidableEq

/-- Why a reply names no client to address. -/
inductive ResolutionFailure where
  | refused (status : Nat)
  | notJson (fault : Json.Fault)
  | notArray
  | malformedRecord (error : Decode.Error)
  | noClient
  | noEndpoint

namespace ResolutionFailure

def message : ResolutionFailure → String
  | refused status =>
    "server answered " ++ String.ofList (Decimal.ofNat status) ++ " to the client list request"
  | notJson fault => "client list is not valid JSON: " ++ fault.message
  | notArray => "client list is not a JSON array"
  | malformedRecord error => "malformed client record: " ++ error.message
  | noClient => "no client is registered on the server"
  | noEndpoint => "first client record has no 'endpoint' field"

def toError (failure : ResolutionFailure) : Error :=
  .deviceResolution failure.message

end ResolutionFailure

namespace Client

def fieldNames : List String := ["endpoint", "registrationId", "address", "lwM2mVersion"]

/-- A client some of whose fields are read. -/
structure Draft where
  endpoint : Option String
  registrationId : Option String
  address : Option String
  version : Option String

namespace Draft

def empty : Draft := ⟨none, none, none, none⟩

/-- The client with one more field; any other name adds nothing. -/
def add (draft : Draft) (name : String) (value : Json) : Except Decode.Error Draft :=
  match name with
  | "endpoint" => do return { draft with endpoint := some (← value.readText) }
  | "registrationId" => do return { draft with registrationId := ← value.readText? }
  | "address" => do return { draft with address := ← value.readText? }
  | "lwM2mVersion" => do return { draft with version := ← value.readText? }
  | _ => .ok draft

/-- The client, once its endpoint is read. -/
def finish (draft : Draft) (missing : Decode.Cause) : Except Decode.Error Client :=
  match draft.endpoint with
  | none => Decode.fail .root missing
  | some endpoint => .ok ⟨endpoint, draft.registrationId, draft.address, draft.version⟩

end Draft

/-- The client that a JSON value holds; an object may have other members too. -/
def ofJson (value : Json) : Except Decode.Error Client :=
  match value with
  | .object members => do
    let draft ← members.foldlM (fun draft (name, value) => Draft.add draft name value) .empty
    draft.finish (.missingField "endpoint")
  | .array items => do
    let draft ← Json.readItemFields fieldNames (fun draft name _ => Draft.add draft name) .empty items
    let client ← draft.finish (.wrongLength 0 "struct DeviceRecord with 4 elements")
    if fieldNames.length < items.length then
      Decode.fail .root (.wrongLength items.length "fewer elements in array")
    else return client
  | value => value.refuse "struct DeviceRecord"

end Client

namespace Reply

/-- The records of a reply: a success whose body is a JSON array. -/
def clientList (reply : Reply) : Except ResolutionFailure (List Json) :=
  if !reply.isSuccess then .error (.refused reply.status)
  else
    match Json.parse reply.body with
    | .error fault => .error (.notJson fault)
    | .ok (.array records) => .ok records
    | .ok _ => .error .notArray

/-- All clients of a reply; one that is malformed spoils the list. -/
def parseClients (reply : Reply) : Except ResolutionFailure (List Client) := do
  let records ← reply.clientList
  (records.mapM Client.ofJson).mapError .malformedRecord

def resolveEndpoint (reply : Reply) : Except ResolutionFailure String := do
  match ← reply.clientList with
  | [] => .error .noClient
  | first :: _ =>
    match (first.member? "endpoint").bind Json.string? with
    | some endpoint => if endpoint.isEmpty then .error .noEndpoint else .ok endpoint
    | none => .error .noEndpoint

end Reply

end Stimulus
