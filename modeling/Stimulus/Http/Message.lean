import Stimulus.Exchange.Session
import Stimulus.Json.Printer
import Stimulus.Log.Entry
import Stimulus.Text.Blank
import Stimulus.Text.Lossy
import Stimulus.Url.Basic

/-!
Messages as bytes on the wire.  A request goes out as one message over a connection of its own; the
reply ends with its length, its last chunk or the connection.
-/

namespace Stimulus.Http

def userAgent : String := "lwm2m-trigger/0.1.0"

def lineEnd : List Char := ['\r', '\n']

/-! ## Requests -/

/-- The digit of a number below sixty-four. -/
def digit64 (n : Nat) : Char :=
  if n < 26 then Char.ofNat ('A'.toNat + n)
  else if n < 52 then Char.ofNat ('a'.toNat + (n - 26))
  else if n < 62 then Char.ofNat ('0'.toNat + (n - 52))
  else if n = 62 then '+' else '/'

def base64 : List UInt8 → List Char
  | [] => []
  | [a] =>
    let n := a.toNat * 16
    [digit64 (n / 64), digit64 (n % 64), '=', '=']
  | [a, b] =>
    let n := (a.toNat * 256 + b.toNat) * 4
    [digit64 (n / 4096), digit64 (n / 64 % 64), digit64 (n % 64), '=']
  | a :: b :: c :: rest =>
    let n := (a.toNat * 256 + b.toNat) * 256 + c.toNat
    digit64 (n / 262144) :: digit64 (n / 4096 % 64) :: digit64 (n / 64 % 64) ::
      digit64 (n % 64) :: base64 rest

/-- The field that names the user of an origin, if there is one. -/
def authorization (origin : Url.Origin) : List (List Char) :=
  if origin.user.isEmpty ∧ origin.password.isNone then []
  else
    let decode (text : String) := Url.Percent.decode text.toList
    let pair := decode origin.user ++ ':'.toUInt8 :: decode (origin.password.getD "")
    ["authorization: Basic ".toList ++ base64 pair]

/-- The path and query of a URL, as a request names them. -/
def target (url : Url) : List Char :=
  Url.pathText url.path ++ Url.queryText url.query

def bodyFields (body : List Char) : List (List Char) :=
  ["content-type: application/json".toList,
    "content-length: ".toList ++ Decimal.ofNat (String.ofList body).utf8ByteSize]

/-- A request as one message to the server of a URL. -/
def encode (request : Request) (url : Url) : String :=
  let body := request.body.map fun value => value.text.toList
  let fields :=
    ["host: ".toList ++ url.origin.host.text ++ url.origin.portText,
      "user-agent: ".toList ++ userAgent.toList, "accept: */*".toList,
      "connection: close".toList] ++ authorization url.origin ++
    match body with
    | some body => bodyFields body
    | none => []
  let lines := (request.method.name.toList ++ ' ' :: target url ++ " HTTP/1.1".toList) :: fields
  String.ofList (lines.flatMap (· ++ lineEnd) ++ lineEnd ++ body.getD [])

/-! ## Replies -/

/-- The first line of some bytes without its end, and the bytes behind it. -/
def takeLine (bytes : List UInt8) : Option (List Char × List UInt8) :=
  match bytes.span (· ≠ 0x0A) with
  | (_, []) => none
  | (line, _ :: rest) =>
    some ((line.map fun b => Char.ofNat b.toNat).filter (· ≠ '\r'), rest)

/-- The lines up to an empty one, and the bytes behind it; there are fewer than `fuel` lines. -/
def takeHead : Nat → List UInt8 → Option (List (List Char) × List UInt8)
  | 0, _ => none
  | fuel + 1, bytes => do
    let (line, rest) ← takeLine bytes
    if line.isEmpty then some ([], rest)
    else
      let (lines, rest) ← takeHead fuel rest
      some (line :: lines, rest)

def status? (line : List Char) : Option Nat :=
  match line.splitOn ' ' with
  | version :: digits :: _ =>
    if "HTTP/".toList.isPrefixOf version ∧ digits.length = 3 then Decimal.value? 10 digits else none
  | _ => none

/-- The value of the field with that name in lower case. -/
def field? (name : String) (fields : List (List Char)) : Option String :=
  fields.findSome? fun line =>
    match line.span (· ≠ ':') with
    | (key, _ :: value) =>
      if key.map Char.toLower = name.toList then some (Text.trim (String.ofList value)) else none
    | (_, []) => none

/-- The bytes of a body in chunks; there are fewer than `fuel` of them. -/
def joinChunks : Nat → List UInt8 → Option (List UInt8)
  | 0, _ => none
  | fuel + 1, bytes => do
    let (line, rest) ← takeLine bytes
    let size ← Decimal.value? 16 (line.takeWhile fun c => (Decimal.digitValue? c).isSome)
    if size = 0 then some []
    else if rest.length < size then none
    else
      let (_, next) ← takeLine (rest.drop size)
      some (rest.take size ++ (← joinChunks fuel next))

/-- The body of a reply, of all bytes behind its head. -/
def body? (status : Nat) (fields : List (List Char)) (bytes : List UInt8) : Option (List UInt8) :=
  if status = 204 ∨ status = 304 then some []
  else if (field? "transfer-encoding" fields).any (·.toLower = "chunked") then
    joinChunks (bytes.length + 1) bytes
  else
    match field? "content-length" fields with
    | some digits => do
      let size ← Decimal.value? 10 digits.toList
      if bytes.length < size then none else some (bytes.take size)
    | none => some bytes

/-- The reply in all bytes of a connection.  A status below 200 announces another reply; there are
fewer than `fuel` of those. -/
def decodeReply : Nat → List UInt8 → Option Reply
  | 0, _ => none
  | fuel + 1, bytes => do
    let (lines, rest) ← takeHead (bytes.length + 1) bytes
    match lines with
    | [] => none
    | first :: fields =>
      let status ← status? first
      if status < 200 then decodeReply fuel rest
      else return { status, body := Text.lossy (← body? status fields rest) }

/-- The reply in all bytes of a connection. -/
def decode? (bytes : List UInt8) : Option Reply :=
  decodeReply (bytes.length + 1) bytes

/-! ## Notes -/

/-- Why a request got no reply. -/
def failure (url : String) : String :=
  "error sending request for url (" ++ url ++ ")"

/-- What the log says of a reply. -/
def note (request : Request) (reply : Reply) : Log.Entry where
  level := .debug
  target := Log.transportTarget
  message := request.text ++ " -> " ++ String.ofList (Decimal.ofNat reply.status) ++ " (" ++
    String.ofList (Decimal.ofNat reply.body.utf8ByteSize) ++ " bytes)"

end Stimulus.Http
