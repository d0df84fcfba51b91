import Stimulus.Config
import Stimulus.Run

/-!
The commands.  Each loads what it needs, fails before anything is sent if that cannot be had, and
otherwise prints what a tester asked for.
-/

namespace Stimulus

inductive Command where
  | run (id : String)
  /-- Lists the identifiers that start with a text. -/
  | list (start : Option String)
  /-- Shows what a test case would send. -/
  | preview (id : String)
  | check
  | devices
  deriving DecidableEq

namespace Command

/-- Goes on with what a command needs, or fails. -/
def withResult {α : Type} (result : Except Error α) (next : α → CommandSession) : CommandSession :=
  match result with
  | .ok value => next value
  | .error e => .done (.error e)

def withTable (files : FileView) (settings : Settings) (next : Table → CommandSession) :
    CommandSession :=
  withResult (settings.loadTable files) fun table =>
    .tell (.note .debug ("Loaded table '" ++ table.name ++ "' (" ++
      String.ofList (Decimal.ofNat table.size) ++ " test cases)")) (next table)

def printAll (texts : List String) : CommandSession :=
  (Session.sayAll (texts.map Output.print)).bind fun _ => .done (.ok ())

def matching (table : Table) (start : Option String) : List String :=
  table.ids.filter fun id => start.all fun start => start.toList.isPrefixOf id.toList

def listed (table : Table) (start : Option String) : List String :=
  match matching table start with
  | [] => [Report.line "No test cases match"]
  | ids => ids.map Report.line

/-- The steps of a test case, with an empty line between two of them. -/
def previews (palette : Palette) (base : BaseUrl) (steps : List Step) : List String :=
  (steps.map fun step => Report.entry palette step (base.template step.2)).intersperse "\n"

/-- The problems of a table, or that it has none. -/
def checkTable (palette : Palette) (table : Table) : CommandSession :=
  match table.validate with
  | [] => printAll [Report.wellFormed palette table]
  | problems =>
    (printAll (problems.map (Report.diagnostic palette))).bind fun _ =>
      .done (.error (.tableParse (String.ofList (Decimal.ofNat problems.length) ++
        " problem(s) in table '" ++ table.name ++ "'")))

def session (palette : Palette) (files : FileView) (settings : Settings) :
    Command → CommandSession
  | run id =>
    withTable files settings fun table =>
    withResult (BaseUrl.parse settings.baseUrl) fun base =>
    runTestCase palette base table id
  | list start => withTable files settings fun table => printAll (listed table start)
  | preview id =>
    withTable files settings fun table =>
    withResult (BaseUrl.parse settings.baseUrl) fun base =>
    match table.chain id with
    | .ok steps => printAll (previews palette base steps)
    | .error e => reportFailure palette e
  | check => withTable files settings (checkTable palette)
  | devices =>
    withResult (BaseUrl.parse settings.baseUrl) fun base =>
    (base.listClients.retell fun notice => [notice.output palette]).bind fun
      | .ok clients => printAll [Report.clients palette clients]
      | .error e => reportFailure palette e

end Command

end Stimulus
