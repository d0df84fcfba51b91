import Stimulus.Command

/-!
The command line: options that every command takes, before or behind its name, and the name with
what it needs.  Arguments are read from the left; the first one that cannot be right is a usage
error, and a request for help ends the reading.
-/

namespace Stimulus.CommandLine

/-- What the options say. -/
structure Options where
  overrides : Overrides
  verbose : Bool
  noColor : Bool
  deriving DecidableEq

/-- What the program is asked to do. -/
inductive Request where
  | help
  | version
  | nothing
  | misuse
  | command (options : Options) (command : Command)
  deriving DecidableEq

/-! ## Options -/

/-- Options with a value. -/
inductive Valued where
  | baseUrl
  | table
  | config
  | stimulus
  | start
  deriving DecidableEq

/-- Options without a value. -/
inductive Flag where
  | verbose
  | noColor
  | help
  | version
  deriving DecidableEq

inductive Switch where
  | valued (option : Valued)
  | flag (flag : Flag)
  deriving DecidableEq

/-- Where an option stands: before the name of a command, or behind it. -/
inductive Level where
  | top
  | list
  | command
  deriving DecidableEq

/-- The option of a long name. -/
def long? (level : Level) (name : String) : Option Switch :=
  match name with
  | "base-url" => some (.valued .baseUrl)
  | "table" => some (.valued .table)
  | "config" => some (.valued .config)
  | "verbose" => some (.flag .verbose)
  | "no-color" => some (.flag .noColor)
  | "help" => some (.flag .help)
  | "stimuli" => if level = .top then some (.valued .stimulus) else none
  | "version" => if level = .top then some (.flag .version) else none
  | "prefix" => if level = .list then some (.valued .start) else none
  | _ => none

def short? (level : Level) (letter : Char) : Option Switch :=
  match letter with
  | 'v' => some (.flag .verbose)
  | 'h' => some (.flag .help)
  | 's' => if level = .top then some (.valued .stimulus) else none
  | 'V' => if level = .top then some (.flag .version) else none
  | _ => none

/-- What the arguments of one level said so far. -/
structure Found where
  values : List (Valued × String)
  flags : List Flag
  /-- The arguments that are no options. -/
  operands : List String

def Found.empty : Found := ⟨[], [], []⟩

/-- A file is not named by an empty text. -/
def isEmptyPath (option : Valued) (value : String) : Bool :=
  (option = .table || option = .config) && value.isEmpty

/-- What was said, with a value; none if there is one already or it cannot be one. -/
def Found.addValue (option : Valued) (value : String) (found : Found) : Option Found :=
  if (found.values.lookup option).isSome || isEmptyPath option value then none
  else some { found with values := (option, value) :: found.values }

/-- What was said, with a flag; none if it was said already. -/
def Found.addFlag (flag : Flag) (found : Found) : Option Found :=
  if found.flags.contains flag then none else some { found with flags := flag :: found.flags }

/-! ## Arguments -/

/-- How the reading of one argument ends. -/
inductive Step where
  | next (found : Found)
  /-- The option takes the next argument as its value. -/
  | awaits (option : Valued) (found : Found)
  | stop (request : Request)

def onFlag (flag : Flag) (found : Found) : Step :=
  match flag with
  | .help => .stop .help
  | .version => .stop .version
  | flag => (found.addFlag flag).elim (.stop .misuse) .next

def onValue (option : Valued) (value : List Char) (found : Found) : Step :=
  (found.addValue option (String.ofList value)).elim (.stop .misuse) .next

/-- An argument behind two dashes. -/
def onLong (level : Level) (found : Found) (text : List Char) : Step :=
  let (name, value) := text.span (· != '=')
  match long? level (String.ofList name), value with
  | some (.valued option), [] => .awaits option found
  | some (.valued option), _ :: value => onValue option value found
  | some (.flag flag), [] => onFlag flag found
  | _, _ => .stop .misuse

/-- The letters behind one dash; a value can stand right behind its letter. -/
def onShort (level : Level) (found : Found) : List Char → Step
  | [] => .next found
  | letter :: rest =>
    match short? level letter with
    | some (.valued option) =>
      match rest with
      | [] => .awaits option found
      | '=' :: value => onValue option value found
      | value => onValue option value found
    | some (.flag flag) =>
      match onFlag flag found with
      | .next found => onShort level found rest
      | step => step
    | none => .stop .misuse

/-- One argument that starts with a dash. -/
def onDash (level : Level) (found : Found) (argument : List Char) : Step :=
  match argument with
  | '-' :: '-' :: name => onLong level found name
  | _ :: letters => onShort level found letters
  | [] => .next found

/-- An argument that stands for an option, and not for a value. -/
def isOption (argument : String) : Bool :=
  match argument.toList with
  | '-' :: _ :: _ => true
  | _ => false

/-- The operands behind a command, up to as many as it takes. -/
def addOperand (limit : Nat) (operand : String) (found : Found) : Option Found :=
  if found.operands.length < limit then
    some { found with operands := found.operands ++ [operand] }
  else none

/-- The arguments behind the name of a command that takes `limit` operands. -/
def readCommand (level : Level) (limit : Nat) :
    Found → List String → Except Request Found
  | found, [] => .ok found
  | found, "--" :: rest =>
    match rest.foldlM (fun found operand => addOperand limit operand found) found with
    | some found => .ok found
    | none => .error .misuse
  | found, argument :: rest =>
    if isOption argument then
      match onDash level found argument.toList, rest with
      | .next found, rest => readCommand level limit found rest
      | .awaits option found, value :: rest =>
        if isOption value then .error .misuse
        else
          match found.addValue option value with
          | some found => readCommand level limit found rest
          | none => .error .misuse
      | .awaits _ _, [] => .error .misuse
      | .stop request, _ => .error request
    else
      match addOperand limit argument found with
      | some found => readCommand level limit found rest
      | none => .error .misuse

/-- A command by its name, still without what it needs. -/
inductive Verb where
  | run
  | list
  | preview
  | check
  | devices
  deriving DecidableEq

def Verb.ofName? : String → Option Verb
  | "run" | "r" => some .run
  | "list" | "ls" => some .list
  | "show" => some .preview
  | "check" => some .check
  | "devices" => some .devices
  | _ => none

/-- How many operands a command takes, each of them required. -/
def Verb.operands : Verb → Nat
  | .run | .preview => 1
  | .list | .check | .devices => 0

/-- The command with what it needs. -/
def Verb.command? (verb : Verb) (found : Found) : Option Command :=
  match verb, found.operands with
  | .run, [id] => some (.run id)
  | .preview, [id] => some (.preview id)
  | .list, _ => some (.list (found.values.lookup .start))
  | .check, _ => some .check
  | .devices, _ => some .devices
  | _, _ => none

/-- What the options before and behind the name of a command say together; the nearer one to the
end stands. -/
def options (top inner : Found) : Options :=
  let value (option : Valued) := (inner.values.lookup option).or (top.values.lookup option)
  let flag (flag : Flag) := top.flags.contains flag || inner.flags.contains flag
  { overrides := { baseUrl := value .baseUrl, table := value .table, config := value .config }
    verbose := flag .verbose
    noColor := flag .noColor }

/-- A command with its arguments; it cannot come with a test case given as an option. -/
def readVerb (top : Found) (verb : Verb) (arguments : List String) : Request :=
  let level := if verb = .list then Level.list else .command
  match readCommand level verb.operands .empty arguments with
  | .error request => request
  | .ok inner =>
    match verb.command? inner with
    | none => .misuse
    | some command =>
      if (top.values.lookup .stimulus).isSome then .misuse
      else .command (options top inner) command

/-- The arguments behind `help`: at most one, the name of a command. -/
def readHelp : List String → Request
  | [] => .help
  | [name] => if name = "help" ∨ (Verb.ofName? name).isSome then .help else .misuse
  | _ => .misuse

/-- What is asked for without the name of a command. -/
def finish (top : Found) : Request :=
  match top.values.lookup .stimulus with
  | some id => .command (options top .empty) (.run id)
  | none => .nothing

/-- The arguments from the left, up to the name of a command. -/
def readTop : Found → List String → Request
  | found, [] => finish found
  | found, ["--"] => finish found
  | _, "--" :: _ => .misuse
  | found, argument :: rest =>
    if isOption argument then
      match onDash .top found argument.toList, rest with
      | .next found, rest => readTop found rest
      | .awaits option found, value :: rest =>
        if isOption value then .misuse
        else
          match found.addValue option value with
          | some found => readTop found rest
          | none => .misuse
      | .awaits _ _, [] => .misuse
      | .stop request, _ => request
    else if argument = "help" then readHelp rest
    else
      match Verb.ofName? argument with
      | some verb => readVerb found verb rest
      | none => .misuse

def read (arguments : List String) : Request :=
  readTop .empty arguments

/-- What the program does for a command: its settings are resolved first. -/
def session (files : FileView) (defaultFile : Option String) (palette : Palette)
    (options : Options) (command : Command) : CommandSession :=
  Command.withResult (Settings.resolve files defaultFile options.overrides) fun settings =>
    command.session palette files settings

/-- The exit code of the program, by what it is asked for and by the result of the command if that
is one. -/
def Request.exitCode (result : Except Error Unit) : Request → UInt32
  | .help | .version => 0
  | .nothing | .misuse => 2
  | .command _ _ =>
    match result with
    | .ok () => 0
    | .error _ => 1

/-! ## Texts -/

def versionText : String := "lwm2m-trigger 0.1.0\n"

def usageLine : String := "Usage: lwm2m-trigger [OPTIONS] [COMMAND]\n"

def usageText : String := usageLine ++ "\nFor more information, try '--help'."

def helpText : String := String.join [
  "Trigger LWM2M interop test stimuli over a server's REST API\n\n",
  usageLine ++ "\n",
  "Commands:\n",
  "  run <TEST_CASE>   Trigger a test case against the first registered client\n",
  "  list              List the test cases in the table\n",
  "  show <TEST_CASE>  Show the request a test case sends\n",
  "  check             Validate the test case table\n",
  "  devices           List the clients registered on the server\n",
  "  help              Print this message\n\n",
  "Options:\n",
  "  -s, --stimuli <TEST_CASE>  Test case to trigger (same as 'run <TEST_CASE>')\n",
  "      --prefix <PREFIX>      With 'list': only identifiers starting with this\n",
  "      --base-url <URL>       Server REST API root\n",
  "      --table <PATH>         YAML test case table to use instead of the built-in one\n",
  "      --config <PATH>        Configuration file\n",
  "  -v, --verbose              Log requests and endpoint resolution to stderr\n",
  "      --no-color             Disable colored output\n",
  "  -h, --help                 Print help\n",
  "  -V, --version              Print version\n"]

end Stimulus.CommandLine
