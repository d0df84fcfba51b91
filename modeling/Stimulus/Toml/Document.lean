import Stimulus.Toml.Reader

/-!
TOML documents.  A document is a list of statements: headers that open a table, and entries that
put a value into the one that is open.  A table is defined once, by a header or by the keys with
points that lead into it, and neither extends what the other one defined.
-/

namespace Stimulus.Toml

/-! ## Tables under construction -/

/-- How a table came to be. -/
inductive Origin where
  | header
  /-- The header of a table inside it was met. -/
  | implied
  /-- A key with points leads into it. -/
  | dotted
  deriving DecidableEq

/-- What stands under a name. -/
inductive Item where
  | value (value : Value)
  | table (origin : Origin) (fields : List (String × Item))
  /-- The tables of headers in double brackets. -/
  | tables (items : List (List (String × Item)))

abbrev Fields := List (String × Item)

namespace Fields

def get? (name : String) (fields : Fields) : Option Item :=
  fields.lookup name

/-- The fields with another item under a name that is there. -/
def set (name : String) (item : Item) (fields : Fields) : Fields :=
  fields.map fun (n, old) => if n = name then (n, item) else (n, old)

def add (name : String) (item : Item) (fields : Fields) : Fields :=
  fields ++ [(name, item)]

def remove (name : String) (fields : Fields) : Fields :=
  fields.filter (·.1 != name)

def changeLast (change : Fields → Option Fields) : List Fields → Option (List Fields)
  | [] => none
  | [fields] => (change fields).map ([·])
  | fields :: rest => (changeLast change rest).map (fields :: ·)

/-- Changes the table that a path of headers leads to. -/
def change (f : Fields → Option Fields) : List String → Fields → Option Fields
  | [], fields => f fields
  | name :: path, fields =>
    match fields.get? name with
    | none => (change f path []).map fun inner => fields.add name (.table .implied inner)
    | some (.table origin inner) =>
      (change f path inner).map fun inner => fields.set name (.table origin inner)
    | some (.tables items) =>
      (changeLast (change f path) items).map fun items => fields.set name (.tables items)
    | some (.value _) => none

/-- Puts a value where a key with points leads; `own` says that the table belongs to such keys. -/
def put (value : Value) : Bool → List String → Fields → Option Fields
  | _, [], _ => none
  | own, [name], fields =>
    if own ∧ (fields.get? name).isNone then some (fields.add name (.value value)) else none
  | _, name :: path, fields =>
    match fields.get? name with
    | none => (put value true path []).map fun inner => fields.add name (.table .dotted inner)
    | some (.table .header _) => none
    | some (.table origin inner) =>
      (put value (origin = .dotted) path inner).map fun inner =>
        fields.set name (.table origin inner)
    | some (.tables items) =>
      (changeLast (put value false path) items).map fun items => fields.set name (.tables items)
    | some (.value _) => none

def openTable (name : String) (fields : Fields) : Option Fields :=
  match fields.get? name with
  | none => some (fields.add name (.table .header []))
  | some (.table .implied inner) => some ((fields.remove name).add name (.table .header inner))
  | some _ => none

/-- Opens one more table of a header in double brackets. -/
def openItem (name : String) (fields : Fields) : Option Fields :=
  match fields.get? name with
  | none => some (fields.add name (.tables [[]]))
  | some (.tables items) => some (fields.set name (.tables (items ++ [[]])))
  | some _ => none

end Fields

mutual

/-- What stands under a name, as a value. -/
def Item.toValue : Item → Value
  | .value value => value
  | .table _ fields => .table (fieldValues fields)
  | .tables items => .array (tableValues items)

def fieldValues : List (String × Item) → List (String × Value)
  | [] => []
  | (name, item) :: rest => (name, item.toValue) :: fieldValues rest

def tableValues : List (List (String × Item)) → List Value
  | [] => []
  | fields :: rest => .table (fieldValues fields) :: tableValues rest

end

/-! ## Values -/

def greatestDepth : Nat := 79

mutual

/-- A value at the front of a text, in which `depth` more levels may open. -/
def readValue : Nat → Nat → Reader Value
  | 0, _, _ => none
  | fuel + 1, depth, text =>
    match text with
    | [] => none
    | '"' :: _ | '\'' :: _ => (readString text).map fun (s, rest) => (.string s, rest)
    | '[' :: rest =>
      match depth with
      | 0 => none
      | depth + 1 => do
        let (items, rest) ← readItems fuel depth rest
        some (.array items, rest)
    | '{' :: rest =>
      match depth with
      | 0 => none
      | depth + 1 =>
        match skipBlanks rest with
        | '}' :: rest => some (.table [], rest)
        | rest => do
          let (fields, rest) ← readFields fuel depth [] rest
          some (.table (fieldValues fields), rest)
    | 't' :: 'r' :: 'u' :: 'e' :: rest => some (.boolean true, rest)
    | 'f' :: 'a' :: 'l' :: 's' :: 'e' :: rest => some (.boolean false, rest)
    | text => (readTime text).or ((readFloat text).or (readInteger text))

/-- The items of an array, up to its bracket. -/
def readItems : Nat → Nat → Reader (List Value)
  | 0, _, _ => none
  | fuel + 1, depth, text =>
    match skipLines text.length text with
    | ']' :: rest => some ([], rest)
    | text => do
      let (item, rest) ← readValue fuel depth text
      match skipLines rest.length rest with
      | ',' :: rest => do
        let (items, rest) ← readItems fuel depth rest
        some (item :: items, rest)
      | ']' :: rest => some ([item], rest)
      | _ => none

/-- The entries of a table in braces, up to its brace, at least one. -/
def readFields : Nat → Nat → Fields → Reader Fields
  | 0, _, _, _ => none
  | fuel + 1, depth, fields, text => do
    let (path, rest) ← readKey text.length text
    let rest ← expect? '=' rest
    let (value, rest) ← readValue fuel depth (skipBlanks rest)
    let fields ← Fields.put value true path fields
    match skipBlanks rest with
    | ',' :: rest => readFields fuel depth fields rest
    | '}' :: rest => some (fields, rest)
    | _ => none

end

/-! ## Statements -/

/-- A document in progress: the tables, and the path of the one that is open. -/
structure State where
  root : Fields
  path : List String

def readHeader (state : State) (text : List Char) : Option (State × List Char) := do
  let (double, text) := match text with
    | '[' :: rest => (true, rest)
    | rest => (false, rest)
  let (path, rest) ← readKey text.length text
  let rest ← expect? ']' rest
  let rest ← if double then expect? ']' rest else some rest
  let name ← path.getLast?
  let change := if double then Fields.openItem name else Fields.openTable name
  let root ← Fields.change change path.dropLast state.root
  some ({ root, path }, ← endLine? rest)

def readEntry (state : State) (text : List Char) : Option (State × List Char) := do
  let (key, rest) ← readKey text.length text
  let rest ← expect? '=' rest
  let (value, rest) ← readValue (2 * rest.length + 2) greatestDepth (skipBlanks rest)
  let root ← Fields.change (Fields.put value true key) state.path state.root
  some ({ state with root }, ← endLine? rest)

/-- The statements of a text, one a line. -/
def readStatements : Nat → State → List Char → Option Fields
  | 0, _, _ => none
  | fuel + 1, state, text =>
    match skipBlanks text with
    | [] => some state.root
    | '[' :: rest => do
      let (state, rest) ← readHeader state rest
      readStatements fuel state rest
    | c :: rest =>
      if c = '#' ∨ c = '\n' ∨ c = '\r' then do
        readStatements fuel state (← endLine? (c :: rest))
      else do
        let (state, rest) ← readEntry state (c :: rest)
        readStatements fuel state rest

/-- The fields of a document; a byte order mark before it is dropped. -/
def parse (text : String) : Option (List (String × Value)) :=
  let chars := match text.toList with
    | '\uFEFF' :: rest => rest
    | chars => chars
  (readStatements (chars.length + 1) ⟨[], []⟩ chars).map fieldValues

end Stimulus.Toml
