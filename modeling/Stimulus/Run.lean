import Stimulus.Report

/-!
Running a test case: the entry and every one that its links lead to, each with both phases.  The
run says what it prints and what it logs.
-/

namespace Stimulus

inductive Output where
  | print (text : String)
  | log (entry : Log.Entry)

def Output.printed (outputs : List Output) : String :=
  String.join <| outputs.map fun
    | .print text => text
    | .log _ => ""

def Output.logged (outputs : List Output) : List Log.Entry :=
  outputs.filterMap fun
    | .log entry => some entry
    | .print _ => none

/-- What is said of a message as it goes out or comes back. -/
def Notice.output (palette : Palette) : Notice → Output
  | .discoverySent request => .print (Report.outgoing palette "Find deviceID" request)
  | .discoveryReceived reply => .print (Report.incoming palette reply)
  | .endpointResolved endpoint => .print (Report.endpoint palette endpoint)
  | .operationSent endpoint request =>
    .print (Report.outgoing palette ("Send request to client " ++ endpoint) request)
  | .operationReceived reply => .print (Report.incoming palette reply)
  | .log entry => .log entry

/-- A session of a command. -/
abbrev CommandSession := Session Output (Except Error Unit)

def Output.note (level : Log.Level) (message : String) : Output :=
  .log { level, target := Log.commandTarget, message }

/-- A failure that ends the test case becomes part of the transcript; any other is handed on. -/
def reportFailure (palette : Palette) (e : Error) : CommandSession :=
  if e.endsTestCase then
    .tell (.note .debug ("Stopping after failure: " ++ e.message)) <|
    .tell (.print (Report.diagnostic palette e)) <|
    .done (.ok ())
  else .done (.error e)

/-- Runs steps in order, up to the first failure. -/
def runSteps (palette : Palette) (base : BaseUrl) : List Step → CommandSession
  | [] => .done (.ok ())
  | step :: rest =>
    .tell (.print (Report.heading palette step)) <|
    ((base.execute step.2).retell fun notice => [notice.output palette]).bind fun
      | .ok _ => runSteps palette base rest
      | .error e => reportFailure palette e

/-- Runs a test case and those that its links lead to. -/
def runTestCase (palette : Palette) (base : BaseUrl) (table : Table) (id : String) :
    CommandSession :=
  match table.chain id with
  | .ok steps => runSteps palette base steps
  | .error e => reportFailure palette e

end Stimulus
