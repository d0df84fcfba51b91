import Std.Async.DNS
import Std.Async.TCP
import Stimulus.CommandLine
import Stimulus.Http.Message
import Stimulus.Log.Filter

/-!
The program: reads its surroundings, carries requests to the server, and prints what the session of
a command tells.
-/

namespace Stimulus.Main

open Std.Async Std.Net

/-! ## Files -/

/-- The problem behind a failure of the system. -/
def fileProblem (e : IO.Error) : FileProblem :=
  let ofCode (code : UInt32) (details : String) : FileProblem :=
    match code with
    | 2 => .notFound
    | 20 => .notDirectory
    | 21 => .isDirectory
    | 36 => .nameTooLong
    | code => .other (details ++ " (os error " ++ toString code ++ ")")
  match e with
  | .noFileOrDirectory _ _ _ => .notFound
  | .permissionDenied _ code details | .inappropriateType _ code details
  | .noSuchThing _ code details | .invalidArgument _ code details
  | .resourceExhausted _ code details => ofCode code details
  | .otherError code details | .illegalOperation code details => ofCode code details
  | e => .other (toString e)

def readBytes (path : String) : IO (Except FileProblem ByteArray) := do
  if path.toList.contains '\x00' then return .error .zeroByte
  else
    try return .ok (← IO.FS.readBinFile path)
    catch e => return .error (fileProblem e)

/-- A problem with a path that leads nowhere. -/
def leadsNowhere : FileProblem → Bool
  | .notFound | .notDirectory | .nameTooLong | .zeroByte => true
  | _ => false

/-- The file system as far as some paths show it. -/
def view (paths : List String) : IO FileView := do
  let found ← paths.mapM fun path => return (path, ← readBytes path)
  let bytes (path : String) := (found.lookup path).getD (.error .notFound)
  return {
    bytes
    isThere := fun path =>
      match bytes path with
      | .ok _ => true
      | .error problem => !leadsNowhere problem }

/-- The configuration file that is read if none is named. -/
def defaultConfig : IO (Option String) := do
  let given := (← IO.getEnv "XDG_CONFIG_HOME").filter (!Path.isRelative ·)
  let home := (← IO.getEnv "HOME").filter (!·.isEmpty)
  return (given.or (home.map (Path.join · ".config"))).map Settings.defaultFile

/-! ## Requests -/

def addresses (host : Url.Host) : IO (List IPAddr) := do
  match host with
  | .domain name => return (← (DNS.getAddrInfo name "http").block).toList
  | .ipv4 address =>
    let byte (k : Nat) := UInt8.ofNat (address / Nat.pow 256 k)
    return [.v4 (.ofParts (byte 3) (byte 2) (byte 1) (byte 0))]
  | .ipv6 pieces =>
    let piece (k : Nat) := UInt16.ofNat (pieces.getD k 0)
    return [.v6 (.ofParts (piece 0) (piece 1) (piece 2) (piece 3) (piece 4) (piece 5) (piece 6)
      (piece 7))]

/-- All bytes that a connection still gives. -/
partial def receiveAll (socket : TCP.Socket.Client) (received : ByteArray) : IO ByteArray := do
  match ← (socket.recv? 65536).block with
  | some bytes => receiveAll socket (received ++ bytes)
  | none => return received

/-- The bytes that come back from an address for a message. -/
def exchange (message : ByteArray) (port : UInt16) (address : IPAddr) : IO ByteArray := do
  let socket ← TCP.Socket.Client.mk
  (socket.connect <| match address with
    | .v4 addr => .v4 ⟨addr, port⟩
    | .v6 addr => .v6 ⟨addr, port⟩).block
  (socket.send message).block
  receiveAll socket ByteArray.empty

/-- The bytes that come back from the first address that answers. -/
def exchangeAny (message : ByteArray) (port : UInt16) : List IPAddr → IO (Option ByteArray)
  | [] => return none
  | address :: rest => do
    try return some (← exchange message port address)
    catch _ => exchangeAny message port rest

/-- The bytes that come back from the server of a URL for a request. -/
def carry (request : Request) (url : Url) : IO (Option ByteArray) := do
  let port := url.origin.port.getD url.origin.scheme.defaultPort
  try
    exchangeAny (Http.encode request url).toUTF8 (UInt16.ofNat port) (← addresses url.origin.host)
  catch _ => return none

def send (request : Request) : IO Outcome := do
  match Url.parse request.url with
  | .ok (.web url) =>
    if url.origin.scheme = .http then
      let reply? := (← carry request url).bind fun bytes => Http.decode? bytes.toList
      return reply?.elim (.error (Http.failure request.url)) .ok
    else return .error (Http.failure request.url)
  | _ => return .error (Http.failure request.url)

/-! ## Commands -/

def writeEntry (filter : Log.Filter) (entry : Log.Entry) : IO Unit := do
  if filter.keeps entry then
    IO.eprintln (entry.level.name ++ " " ++ entry.target ++ ": " ++ entry.message)

def tell (filter : Log.Filter) : Output → IO Unit
  | .print text => IO.print text
  | .log entry => writeEntry filter entry

/-- Sends a request and writes what the log says of the reply. -/
def sendNoted (filter : Log.Filter) (request : Request) : IO Outcome := do
  let outcome ← send request
  if let .ok reply := outcome then writeEntry filter (Http.note request reply)
  return outcome

def palette (refused : Bool) : IO Palette := do
  let wishes : Palette.Wishes := {
    isTerminal := ← (← IO.getStdout).isTty
    wanted := ← IO.getEnv "CLICOLOR"
    forced := ← IO.getEnv "CLICOLOR_FORCE"
    unwanted := ← IO.getEnv "NO_COLOR" }
  return Palette.choose wishes refused

/-- The files that a command looks at: the configuration and the table that it leads to. -/
def commandView (defaultFile : Option String) (overrides : Overrides) : IO FileView := do
  let config := (overrides.config.or defaultFile).toList
  let table := match Settings.resolve (← view config) defaultFile overrides with
    | .ok settings => settings.tablePath.toList
    | .error _ => []
  view (config ++ table)

def run (options : CommandLine.Options) (command : Command) : IO (Except Error Unit) := do
  let filter := Log.Filter.choose (← IO.getEnv "RUST_LOG") options.verbose
  let defaultFile ← defaultConfig
  let files ← commandView defaultFile options.overrides
  let session := CommandLine.session files defaultFile (← palette options.noColor) options command
  let result ← session.perform (tell filter) (sendNoted filter)
  if let .error e := result then IO.eprintln ("Error: " ++ e.message)
  return result

/-- Does what is asked for; only a command can fail. -/
def serve : CommandLine.Request → IO (Except Error Unit)
  | .help | .nothing => do
    IO.print CommandLine.helpText
    return .ok ()
  | .version => do
    IO.print CommandLine.versionText
    return .ok ()
  | .misuse => do
    IO.eprintln CommandLine.usageText
    return .ok ()
  | .command options command => run options command

end Stimulus.Main

def main (arguments : List String) : IO UInt32 := do
  let request := Stimulus.CommandLine.read arguments
  return request.exitCode (← Stimulus.Main.serve request)
