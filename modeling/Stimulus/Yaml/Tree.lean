import Stimulus.Yaml.Node

/-!
Documents as trees.  Every alias is replaced by the node it stands for, so a tree has scalars and
collections only.  Where a document breaks off, nests too deep or repeats itself without end, its
tree holds `Tree.broken`, which reads as nothing at all.
-/

namespace Stimulus.Yaml

inductive Tree where
  | scalar (tag : Option String) (text : String) (style : Style)
  | sequence (tag : Option String) (items : List Tree)
  /-- The entries: key, value, and the name of the entry in messages. -/
  | mapping (tag : Option String) (entries : List (Tree × Option String × Tree))
  | broken

structure Document where
  /-- None if the text is empty. -/
  root : Option Tree
  /-- The text holds this document and nothing else. -/
  alone : Bool

/-! ## Anchors -/

/-- What is known of the anchors while a document is passed in order. -/
structure Anchors where
  /-- The number that stands for each name. -/
  numbers : List (String × Nat)
  /-- How many events have passed: each node is one, and so is the end of each collection. -/
  passed : Nat
  /-- For each number the nodes that were given it, with their places. -/
  targets : List (Nat × Nat × Node Nat)

namespace Anchors

/-- The state with one more node passed, and the number of its anchor: the count of the names known
before it. -/
def enter (anchor : Option String) (anchors : Anchors) : Option Nat × Anchors :=
  let anchors := { anchors with passed := anchors.passed + 1 }
  match anchor with
  | none => (none, anchors)
  | some name =>
    let number := anchors.numbers.length
    let others := anchors.numbers.filter (·.1 != name)
    (some number, { anchors with numbers := (name, number) :: others })

/-- The state behind a collection. -/
def leave (anchors : Anchors) : Anchors :=
  { anchors with passed := anchors.passed + 1 }

def record (number : Option Nat) (place : Nat) (node : Node Nat) (anchors : Anchors) : Anchors :=
  match number with
  | none => anchors
  | some number => { anchors with targets := (number, place, node) :: anchors.targets }

/-- The node of a number that comes last in the document. -/
def target? (anchors : Anchors) (number : Nat) : Option (Node Nat) :=
  let candidates := anchors.targets.filter (·.1 == number)
  (candidates.foldl (fun best entry =>
    match best with
    | none => some entry
    | some (b : Nat × Nat × Node Nat) => if b.2.1 < entry.2.1 then some entry else best) none).map
      (·.2.2)

end Anchors

namespace Node

mutual

/-- The node with numbers for names; an alias of an unknown name is broken. -/
def number : Node String → Anchors → Node Nat × Anchors
  | .alias name, anchors =>
    let (_, anchors) := anchors.enter none
    match anchors.numbers.lookup name with
    | some n => (.alias n, anchors)
    | none => (.broken, anchors)
  | .scalar anchor tag text style, anchors =>
    let (n, anchors) := anchors.enter anchor
    let node : Node Nat := .scalar none tag text style
    (node, anchors.record n anchors.passed node)
  | .sequence anchor tag items, anchors =>
    let (n, anchors) := anchors.enter anchor
    let place := anchors.passed
    let (items, anchors) := numberItems items anchors
    let node : Node Nat := .sequence none tag items
    (node, anchors.leave.record n place node)
  | .mapping anchor tag entries, anchors =>
    let (n, anchors) := anchors.enter anchor
    let place := anchors.passed
    let (entries, anchors) := numberEntries entries anchors
    let node : Node Nat := .mapping none tag entries
    (node, anchors.leave.record n place node)
  | .broken, anchors => (.broken, anchors)

def numberItems : List (Node String) → Anchors → List (Node Nat) × Anchors
  | [], anchors => ([], anchors)
  | item :: rest, anchors =>
    let (item, anchors) := number item anchors
    let (rest, anchors) := numberItems rest anchors
    (item :: rest, anchors)

def numberEntries :
    List (Node String × Node String) → Anchors → List (Node Nat × Node Nat) × Anchors
  | [], anchors => ([], anchors)
  | (key, value) :: rest, anchors =>
    let (key, anchors) := number key anchors
    let (value, anchors) := number value anchors
    let (rest, anchors) := numberEntries rest anchors
    ((key, value) :: rest, anchors)

end

/-! ## Expansion -/

/-- The name of an entry in messages: the text of a key that is itself a scalar. -/
def label? {α : Type} : Node α → Option String
  | .scalar _ _ text _ => some text
  | _ => none

def greatestDepth : Nat := 128

/-- The tree of a node, in which `depth` more levels may open, and how many aliases may still be
followed.  Deeper collections have a broken item. -/
def expand (anchors : Anchors) : Nat → Node Nat → StateM Nat Tree
  | depth, node => do
    let node ← match node with
      | .alias number =>
        let left ← get
        if left = 0 then pure .broken
        else
          set (left - 1)
          pure ((anchors.target? number).getD .broken)
      | node => pure node
    match depth, node with
    | _, .alias _ | _, .broken => pure .broken
    | _, .scalar _ tag text style => pure (.scalar tag text style)
    | 0, .sequence _ tag _ => pure (.sequence tag [.broken])
    | 0, .mapping _ tag _ => pure (.mapping tag [(.broken, none, .broken)])
    | depth + 1, .sequence _ tag items => do
      pure (.sequence tag (← items.mapM (expand anchors depth)))
    | depth + 1, .mapping _ tag entries => do
      let entries ← entries.mapM fun (key, value) => do
        let tree ← expand anchors depth key
        pure (tree, key.label?, ← expand anchors depth value)
      pure (.mapping tag entries)

end Node

/-- The first document of a text.  A hundred aliases are followed for each of its events. -/
def Document.parse (text : String) : Document :=
  let (root, rest) := readRoot (tokenize text)
  let tree := root.map fun node =>
    let (node, anchors) := node.number ⟨[], 0, []⟩
    (Node.expand anchors Node.greatestDepth node (100 * anchors.passed)).1
  { root := tree, alone := rest.elim false endsStream }

end Stimulus.Yaml
