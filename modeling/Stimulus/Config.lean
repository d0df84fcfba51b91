import Stimulus.Decode
import Stimulus.Error
import Stimulus.Files.Path
import Stimulus.Files.Tree
import Stimulus.Table.Builtin
import Stimulus.Table.Reader
import Stimulus.Toml.Document

/-!
Configuration files and settings.  A configuration is a TOML text that can name a server and a
table; what the command line says goes before it, and what neither says has a default.
-/

namespace Stimulus

structure Config where
  baseUrl : String
  table : Option String
  deriving DecidableEq

namespace Config

open Decode (Shape)

def defaultBaseUrl : String := "http://127.0.0.1:8080/api"

def default : Config := ⟨defaultBaseUrl, none⟩

def shape : Toml.Value → Shape
  | .string value => .string value
  | .integer value => .integer value
  | .float value => .floating value.text
  | .boolean value => .boolean value
  | .datetime | .table _ => .map
  | .array _ => .sequence

def refuse {α : Type} (value : Toml.Value) (expected : String) : Except Decode.Error α :=
  Decode.fail .root (.wrongType (shape value) expected)

def readText (expected : String) (value : Toml.Value) : Except Decode.Error String :=
  match value with
  | .string s => .ok s
  | value => refuse value expected

/-- The server of a configuration.  Its fields may also be written as an array, and a date stands for
a table with none of them. -/
def readServer (value : Toml.Value) : Except Decode.Error String :=
  let field (value : Option Toml.Value) : Except Decode.Error String :=
    match value with
    | some value => readText "a string" value
    | none => .ok defaultBaseUrl
  match value with
  | .table fields => field (fields.lookup "base_url")
  | .array items => field items.head?
  | .datetime => field none
  | value => refuse value "struct ServerConfig"

/-- The table of a configuration, in the same forms; an array of its fields cannot be empty. -/
def readTable (value : Toml.Value) : Except Decode.Error (Option String) :=
  match value with
  | .table fields =>
    match fields.lookup "path" with
    | some value => (readText "path string" value).map some
    | none => .ok none
  | .array [] => Decode.fail .root (.wrongLength 0 "struct TableConfig with 1 element")
  | .array (item :: _) => (readText "path string" item).map some
  | .datetime => .ok none
  | value => refuse value "struct TableConfig"

/-- A configuration with one more field; names that mean nothing here are passed over. -/
def add (config : Config) (field : String × Toml.Value) : Except Decode.Error Config :=
  match field with
  | ("server", value) => do return { config with baseUrl := ← readServer value }
  | ("table", value) => do return { config with table := ← readTable value }
  | _ => .ok config

def decode (text : String) : Except Decode.Error Config :=
  match Toml.parse text with
  | none => Decode.fail .root (.unreadable "TOML parse error")
  | some fields => fields.foldlM add default

def parse (text : String) : Except Error Config :=
  (decode text).mapError fun e => .configParse e.message

/-- A table's path, taken from the directory of the file that names it. -/
def locate (file table : String) : String :=
  if Path.isRelative table then
    match Path.parent? file with
    | some directory => Path.join directory table
    | none => table
  else table

def load (files : FileView) (path : String) : Except Error Config := do
  let text ← (files.text path).mapError fun problem => .fileRead path problem.message
  let config ← parse text
  return { config with table := config.table.map (locate path) }

end Config

/-- What the command line says about the settings. -/
structure Overrides where
  baseUrl : Option String
  table : Option String
  config : Option String
  deriving DecidableEq

/-- What a command works with. -/
structure Settings where
  baseUrl : String
  tablePath : Option String
  deriving DecidableEq

namespace Settings

/-- The configuration file that is read if it exists, under the directory of the user's settings. -/
def defaultFile (settingsDirectory : String) : String :=
  Path.join settingsDirectory "lwm2m-trigger/config.toml"

/-- The configuration that the settings are made from: of the file that is named, which must exist,
or of the one at its default place, if it does. -/
def findConfig (files : FileView) (defaultFile : Option String) (overrides : Overrides) :
    Except Error Config :=
  match overrides.config with
  | some path => Config.load files path
  | none =>
    match defaultFile with
    | some path => if files.isThere path then Config.load files path else .ok Config.default
    | none => .ok Config.default

/-- The settings: what the command line says, else the configuration, else the default. -/
def resolve (files : FileView) (defaultFile : Option String) (overrides : Overrides) :
    Except Error Settings := do
  let config ← findConfig files defaultFile overrides
  return {
    baseUrl := overrides.baseUrl.getD config.baseUrl
    tablePath := overrides.table.or config.table }

/-- The table in a file; what is wrong with it is told behind the file's path. -/
def readTable (files : FileView) (path : String) : Except Error Table := do
  let text ← (files.text path).mapError fun problem => .fileRead path problem.message
  (Table.decode text).mapError fun e => .tableParse (path ++ ": " ++ e.message)

/-- The table that the settings name, or the one that is built in. -/
def loadTable (settings : Settings) (files : FileView) : Except Error Table :=
  match settings.tablePath with
  | some path => readTable files path
  | none => .ok Table.builtin

end Settings

end Stimulus
