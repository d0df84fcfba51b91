import Stimulus.Yaml.Scanner

/-!
From tokens to nodes.  A node is a scalar, a collection or an alias, with the anchor and the tag
that were given to it.  Tokens that follow no rule end the reading: what was read stands, with
`Node.broken` in the place of what could not be read, and nothing after it.
-/

namespace Stimulus.Yaml

/-- A node; `α` is what aliases refer by. -/
inductive Node (α : Type) where
  | alias (target : α)
  | scalar (anchor tag : Option String) (text : String) (style : Style)
  | sequence (anchor tag : Option String) (items : List (Node α))
  | mapping (anchor tag : Option String) (entries : List (Node α × Node α))
  /-- Reading ended here. -/
  | broken

namespace Node

/-- A node that is not written at all. -/
def absent : Node String := .scalar none none "" .plain

/-- What reading gives: a result, and the tokens behind it unless reading ended. -/
abbrev Reading (α : Type) := α × Option (List Token)

/-- The expansions of tag handles. -/
abbrev Handles := List (String × String)

def defaultHandles : Handles := [("!", "!"), ("!!", "tag:yaml.org,2002:")]

/-- The anchor and tag of a node, each still as a token. -/
structure Properties where
  anchor : Option String
  tag : Option (String × String)

/-- At most one anchor and one tag, in either order. -/
def readProperties : List Token → Properties × List Token
  | .anchor a :: .tag h s :: rest => (⟨some a, some (h, s)⟩, rest)
  | .tag h s :: .anchor a :: rest => (⟨some a, some (h, s)⟩, rest)
  | .anchor a :: rest => (⟨some a, none⟩, rest)
  | .tag h s :: rest => (⟨none, some (h, s)⟩, rest)
  | rest => (⟨none, none⟩, rest)

/-- The full name of a tag; none if its handle is not known. -/
def expandTag (handles : Handles) : Option (String × String) → Option (Option String)
  | none => some none
  | some (handle, suffix) =>
    if handle.isEmpty then some (some suffix)
    else (handles.lookup handle).map fun expansion => some (expansion ++ suffix)

/-- Whether the front token is among those that end a node before it begins. -/
def frontIs (tokens : List Token) (ends : List Token) : Bool :=
  tokens.head?.any (ends.contains ·)

/-- The rest of a list whose first items are known. -/
def withFirst {α : Type} (first : List α) (rest : Reading (List α)) : Reading (List α) :=
  (first ++ rest.1, rest.2)

mutual

/-- A node, at the front of the tokens.  Block collections are read only if `block`, and a sequence
without indentation of its own only if `bare`. -/
def read (handles : Handles) : Nat → Bool → Bool → List Token → Reading (Node String)
  | 0, _, _, _ => (.broken, none)
  | _ + 1, _, _, .alias name :: rest => (.alias name, some rest)
  | fuel + 1, block, bare, tokens =>
    let (properties, tokens) := readProperties tokens
    let anchor := properties.anchor
    if frontIs tokens [.fault] then (.broken, none)
    else
      match expandTag handles properties.tag with
      | none => (.broken, none)
      | some tag =>
        match tokens with
        | .scalar text style :: rest =>
          -- One exclamation mark alone leaves the type of a scalar to its form.
          (.scalar anchor (tag.filter (· ≠ "!")) text style, some rest)
        | .flowSequenceStart :: rest =>
          let (items, rest) := readFlowItems handles fuel true rest
          (.sequence anchor tag items, rest)
        | .flowMappingStart :: rest =>
          let (entries, rest) := readFlowEntries handles fuel true rest
          (.mapping anchor tag entries, rest)
        | .blockEntry :: _ =>
          if bare then
            let (items, rest) := readBareItems handles fuel tokens
            (.sequence anchor tag items, rest)
          else if anchor.isSome || tag.isSome then (.scalar anchor tag "" .plain, some tokens)
          else (.broken, none)
        | .blockSequenceStart :: rest =>
          if block then
            let (items, rest) := readBlockItems handles fuel rest
            (.sequence anchor tag items, rest)
          else if anchor.isSome || tag.isSome then (.scalar anchor tag "" .plain, some tokens)
          else (.broken, none)
        | .blockMappingStart :: rest =>
          if block then
            let (entries, rest) := readBlockEntries handles fuel rest
            (.mapping anchor tag entries, rest)
          else if anchor.isSome || tag.isSome then (.scalar anchor tag "" .plain, some tokens)
          else (.broken, none)
        | tokens =>
          if anchor.isSome || tag.isSome then (.scalar anchor tag "" .plain, some tokens)
          else (.broken, none)

/-- A node, or an absent one if the front token is among `ends`. -/
def readUnless (handles : Handles) :
    Nat → Bool → Bool → List Token → List Token → Reading (Node String)
  | 0, _, _, _, _ => (.broken, none)
  | fuel + 1, block, bare, ends, tokens =>
    if frontIs tokens ends then (.absent, some tokens) else read handles fuel block bare tokens

def readBlockItems (handles : Handles) : Nat → List Token → Reading (List (Node String))
  | fuel + 1, .blockEntry :: rest =>
    match readUnless handles fuel true false [.blockEntry, .blockEnd] rest with
    | (item, none) => ([item], none)
    | (item, some rest) => withFirst [item] (readBlockItems handles fuel rest)
  | _, .blockEnd :: rest => ([], some rest)
  | _, _ => ([.broken], none)

/-- The items of a sequence that stands at the indentation of the mapping around it. -/
def readBareItems (handles : Handles) : Nat → List Token → Reading (List (Node String))
  | fuel + 1, .blockEntry :: rest =>
    match readUnless handles fuel true false [.blockEntry, .key, .value, .blockEnd] rest with
    | (item, none) => ([item], none)
    | (item, some rest) => withFirst [item] (readBareItems handles fuel rest)
  | _, .fault :: _ => ([.broken], none)
  | _, tokens => ([], some tokens)

/-- The value behind a key: absent without its mark. -/
def readValue (handles : Handles) :
    Nat → Bool → List Token → List Token → Reading (Node String)
  | fuel + 1, block, ends, .value :: rest => readUnless handles fuel block block ends rest
  | _, _, _, .fault :: _ => (.broken, none)
  | _, _, _, tokens => (.absent, some tokens)

def readBlockEntries (handles : Handles) :
    Nat → List Token → Reading (List (Node String × Node String))
  | fuel + 1, .key :: rest =>
    match readUnless handles fuel true true [.key, .value, .blockEnd] rest with
    | (key, none) => ([(key, .broken)], none)
    | (key, some rest) =>
      match readValue handles fuel true [.key, .value, .blockEnd] rest with
      | (value, none) => ([(key, value)], none)
      | (value, some rest) => withFirst [(key, value)] (readBlockEntries handles fuel rest)
  | _, .blockEnd :: rest => ([], some rest)
  | _, _ => ([(.broken, .broken)], none)

/-- The items of a flow sequence, up to its end; all but the first behind a comma. -/
def readFlowItems (handles : Handles) :
    Nat → Bool → List Token → Reading (List (Node String))
  | 0, _, _ => ([.broken], none)
  | _ + 1, _, .flowSequenceEnd :: rest => ([], some rest)
  | fuel + 1, false, .flowEntry :: rest => readFlowItems handles fuel true rest
  | _ + 1, false, _ => ([.broken], none)
  | fuel + 1, true, .key :: rest =>
    match readPair handles fuel rest with
    | (item, none) => ([item], none)
    | (item, some rest) => withFirst [item] (readFlowItems handles fuel false rest)
  | fuel + 1, true, tokens =>
    match read handles fuel false false tokens with
    | (item, none) => ([item], none)
    | (item, some rest) => withFirst [item] (readFlowItems handles fuel false rest)

/-- A mapping of one entry without braces, behind the mark of its key.  An absent key takes the
token that ends it along. -/
def readPair (handles : Handles) : Nat → List Token → Reading (Node String)
  | 0, _ => (.broken, none)
  | fuel + 1, tokens =>
    let mapping (entries : List (Node String × Node String)) : Node String :=
      .mapping none none entries
    let (key, rest) :=
      if frontIs tokens [.value, .flowEntry, .flowSequenceEnd] then
        (absent, some tokens.tail)
      else read handles fuel false false tokens
    match rest with
    | none => (mapping [(key, .broken)], none)
    | some rest =>
      match readValue handles fuel false [.flowEntry, .flowSequenceEnd] rest with
      | (value, none) => (mapping [(key, value)], none)
      | (value, some rest) =>
        if frontIs rest [.fault] then (mapping [(key, value), (.broken, .broken)], none)
        else (mapping [(key, value)], some rest)

/-- The entries of a flow mapping, up to its end; all but the first behind a comma. -/
def readFlowEntries (handles : Handles) :
    Nat → Bool → List Token → Reading (List (Node String × Node String))
  | 0, _, _ => ([(.broken, .broken)], none)
  | _ + 1, _, .flowMappingEnd :: rest => ([], some rest)
  | fuel + 1, false, .flowEntry :: rest => readFlowEntries handles fuel true rest
  | _ + 1, false, _ => ([(.broken, .broken)], none)
  | fuel + 1, true, .key :: rest =>
    match readUnless handles fuel false false [.value, .flowEntry, .flowMappingEnd] rest with
    | (key, none) => ([(key, .broken)], none)
    | (key, some rest) =>
      match readValue handles fuel false [.flowEntry, .flowMappingEnd] rest with
      | (value, none) => ([(key, value)], none)
      | (value, some rest) => withFirst [(key, value)] (readFlowEntries handles fuel false rest)
  | fuel + 1, true, tokens =>
    match read handles fuel false false tokens with
    | (key, none) => ([(key, .broken)], none)
    | (key, some rest) =>
      if frontIs rest [.fault] then ([(key, .broken)], none)
      else withFirst [(key, .absent)] (readFlowEntries handles fuel false rest)

end

end Node

/-! ## Documents -/

/-- A node that fills the place of the root of a document, and what follows it. -/
abbrev Node.RootReading := Option (Node String) × Option (List Token)

/-- The directives before a document; none if they contradict each other. -/
def readDirectives (version : Option (Nat × Nat)) (handles : Node.Handles) :
    List Token → Option (Node.Handles × List Token)
  | .versionDirective major minor :: rest =>
    if version.isSome ∨ major ≠ 1 ∨ (minor ≠ 1 ∧ minor ≠ 2) then none
    else readDirectives (some (major, minor)) handles rest
  | .tagDirective handle expansion :: rest =>
    if (handles.lookup handle).isSome then none
    else readDirectives version ((handle, expansion) :: handles) rest
  | rest => some (handles ++ Node.defaultHandles, rest)

def leavesDocument : List Token → Bool
  | .versionDirective _ _ :: _ | .tagDirective _ _ :: _ | .documentStart :: _
  | .documentEnd :: _ | .streamEnd :: _ => true
  | _ => false

/-- The root of the first document, none if there is no document.  Without directives the mark that
starts a document can be left out. -/
def readRoot (tokens : List Token) : Node.RootReading :=
  let fuel := 4 * tokens.length + 4
  let some' (reading : Node.Reading (Node String)) : Node.RootReading := (some reading.1, reading.2)
  match tokens with
  | .streamEnd :: _ => (none, some tokens)
  | .versionDirective _ _ :: _ | .tagDirective _ _ :: _ | .documentStart :: _ =>
    match readDirectives none [] tokens with
    | some (handles, .documentStart :: rest) =>
      if leavesDocument rest then (some .absent, some rest)
      else some' (Node.read handles fuel true false rest)
    | _ => (some .broken, none)
  | tokens => some' (Node.read Node.defaultHandles fuel true false tokens)

/-- Nothing but the ends of a document is left. -/
def endsStream : List Token → Bool
  | .documentEnd :: rest => endsStream rest
  | .streamEnd :: _ => true
  | _ => false

end Stimulus.Yaml
