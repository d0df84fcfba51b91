/-!
The failures of a stimulus run, from a bad table to a silent server, with the text that the tester
reads.  `Error.endsTestCase` tells the failures that end one test case from those that end the
program.
-/

namespace Stimulus

/-- Everything that can stop a command. -/
inductive Error where
  /-- The table has no entry of this identifier. -/
  | unknownTestCase (id : String)
  /-- The entry `id` is present and cannot be used. -/
  | invalidDescriptor (id reason : String)
  /-- The table is not a table at all. -/
  | tableParse (detail : String)
  | network (detail : String)
  /-- The client list names no endpoint to address. -/
  | deviceResolution (reason : String)
  /-- The server's root cannot be used as a base of request URLs. -/
  | invalidBaseUrl (url reason : String)
  | configParse (detail : String)
  | fileRead (path problem : String)
  deriving DecidableEq

namespace Error

def message : Error → String
  | unknownTestCase id => "unknown test case " ++ id
  | invalidDescriptor id reason => "Invalid test case '" ++ id ++ "': " ++ reason
  | tableParse detail => "Invalid test case table: " ++ detail
  | network detail => "Network error: " ++ detail
  | deviceResolution reason => "Could not resolve device endpoint: " ++ reason
  | invalidBaseUrl url reason => "Invalid server base URL '" ++ url ++ "': " ++ reason
  | configParse detail => "Invalid configuration file: " ++ detail
  | fileRead path problem => "Failed to read file '" ++ path ++ "': " ++ problem

/-- Whether the failure ends only the current test case: it is then part of the transcript, and
the program still ends well. -/
def endsTestCase : Error → Bool
  | unknownTestCase _ | network _ | deviceResolution _ => true
  | _ => false

end Error

end Stimulus
