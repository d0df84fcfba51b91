/-!
Log entries: a level, the part of the program that speaks, and a line of text.
-/

namespace Stimulus.Log

/-- How much an entry matters, most first. -/
inductive Level where
  | error
  | warn
  | info
  | debug
  | trace
  deriving DecidableEq

namespace Level

def name : Level → String
  | error => "ERROR"
  | warn => "WARN"
  | info => "INFO"
  | debug => "DEBUG"
  | trace => "TRACE"

/-- How many levels matter at least as much. -/
def rank : Level → Nat
  | error => 1
  | warn => 2
  | info => 3
  | debug => 4
  | trace => 5

end Level

/-- A line of the log. -/
structure Entry where
  level : Level
  /-- The name under which filters know the speaker. -/
  target : String
  message : String

/-- The speaker of commands. -/
def commandTarget : String := "lwm2m_trigger::cli"

/-- The speaker of exchanges with the server. -/
def exchangeTarget : String := "lwm2m_trigger::dispatch::client"

/-- The speaker of the connection to the server. -/
def transportTarget : String := "lwm2m_trigger::dispatch::transport"

end Stimulus.Log
