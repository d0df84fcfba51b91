import Stimulus.Exchange.Operation
import Stimulus.Json.Printer
import Stimulus.Palette
import Stimulus.Table.Basic

/-!
The transcript: the text that a tester reads.  Requests stand behind arrows to the right and
replies behind arrows to the left, each as it was sent or received; every text here is a number of
whole lines.
-/

namespace Stimulus.Report

def line (text : String) : String := text ++ "\n"

def heading (palette : Palette) (step : Step) : String :=
  let (id, descriptor) := step
  let title := "\n" ++ palette.paint .heading id
  match descriptor.description with
  | some text => line (title ++ " " ++ palette.paint .aside ("(" ++ text ++ ")"))
  | none => line title

/-- A request that goes out, with its body if it has one. -/
def outgoing (palette : Palette) (label : String) (request : Request) : String :=
  line ("\n" ++ palette.paint .arrow "▶▶▶▶▶" ++ " " ++ palette.paint .aside ("(" ++ label ++ ")")) ++
    line request.text ++
    match request.body with
    | some body => line body.text
    | none => ""

def incoming (palette : Palette) (reply : Reply) : String :=
  let status := String.ofList (Decimal.ofNat reply.status)
  line (palette.paint .arrow "◀◀◀◀◀") ++
    line (palette.paint (if reply.isSuccess then .good else .odd) status) ++
    line reply.body

def endpoint (palette : Palette) (name : String) : String :=
  line ("DeviceID: " ++ palette.paint .strong name)

def diagnostic (palette : Palette) (error : Error) : String :=
  line (palette.paint .bad "✗" ++ " " ++ error.message)

/-- A line without the carriage return that can stand before its line feed. -/
def dropReturn (line : List Char) : List Char :=
  if line.getLast? = some '\r' then line.dropLast else line

/-- The lines of a text, without their ends.  What follows the last line feed is a line if there is
anything. -/
def linesOf (text : String) : List String :=
  let pieces := text.toList.splitOn '\n'
  let ended := pieces.dropLast.map dropReturn
  let last := pieces.getLast?.filter (!·.isEmpty)
  (ended ++ last.toList).map String.ofList

/-- The payload of an entry, and a warning if it is not sent. -/
def payload (palette : Palette) (descriptor : Descriptor) : String :=
  match descriptor.payload with
  | none => line ("  Payload: " ++ palette.paint .aside "none")
  | some payload =>
    line "  Payload:" ++
      String.join ((linesOf payload.prettyText).map fun text => line ("    " ++ text)) ++
      if descriptor.method.carriesBody then ""
      else line ("  " ++ palette.paint .odd "!" ++ " payload is not sent with " ++ descriptor.method.name)

/-- An entry and the request that it sends. -/
def entry (palette : Palette) (step : Step) (template : String) : String :=
  let (id, descriptor) := step
  line (palette.paint .heading id) ++
    (match descriptor.description with
      | some text => line ("  " ++ palette.paint .aside text)
      | none => "") ++
    line ("  Method:  " ++ descriptor.method.name) ++
    line ("  Path:    " ++ descriptor.path) ++
    line ("  Format:  " ++ descriptor.format.name) ++
    line ("  URL:     " ++ template) ++
    payload palette descriptor ++
    match descriptor.next with
    | some next => line ("  Then:    " ++ next)
    | none => ""

/-- What is known of a client beside its endpoint. -/
def clientDetails (client : Client) : List String :=
  client.address.toList ++
    (client.version.map ("LWM2M " ++ ·)).toList ++
    (client.registrationId.map ("reg " ++ ·)).toList

/-- One client; the first one is marked. -/
def client (palette : Palette) (marker : String) (client : Client) : String :=
  let details := clientDetails client
  let text := "  " ++ marker ++ " " ++ client.endpoint
  if details.isEmpty then line text
  else line (text ++ " " ++ palette.paint .aside ("(" ++ String.intercalate ", " details ++ ")"))

def clients (palette : Palette) : List Client → String
  | [] => line "No clients registered"
  | first :: rest =>
    line "Registered clients:" ++ client palette "*" first ++
      String.join (rest.map (client palette " ")) ++
      line "\n  * used as the target of 'run'"

/-- That every entry of a table can be run. -/
def wellFormed (palette : Palette) (table : Table) : String :=
  line (palette.paint .good "✓" ++ " " ++ String.ofList (Decimal.ofNat table.size) ++
    " test cases in table '" ++ table.name ++ "' are well-formed")

end Stimulus.Report
