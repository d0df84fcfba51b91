import Stimulus.Log.Entry
import Stimulus.Text.Blank

/-!
Log filters.  A filter is a list of directives `target=level` with commas between them; an entry is
kept if its level matters enough for the directive whose target fits its speaker best.
-/

namespace Stimulus.Log

structure Directive where
  /-- What the speaker's name has to start with. -/
  target : Option String
  /-- The rank of the least important level that is kept; zero keeps none. -/
  greatestRank : Nat
  deriving DecidableEq

abbrev Filter := List Directive

namespace Filter

def levels : List Level := [.error, .warn, .info, .debug, .trace]

def lower (text : List Char) : String :=
  String.ofList (text.map Char.toLower)

def number? (text : List Char) : Option Nat :=
  let digits := match text with
    | '+' :: rest => rest
    | rest => rest
  if digits.isEmpty ∨ !digits.all Char.isDigit then none
  else some (digits.foldl (fun n c => n * 10 + (c.toNat - '0'.toNat)) 0)

/-- The rank that a level's number or name gives; an empty name is `error`. -/
def rank? (text : List Char) : Option Nat :=
  match (number? text).filter (· ≤ 5) with
  | some n => some n
  | none =>
    if text.isEmpty then some Level.error.rank
    else if lower text = "off" then some 0
    else (levels.find? fun level => level.name.toLower = lower text).map Level.rank

/-- The rank behind an equals sign; an empty level keeps everything. -/
def rankBehind? (text : List Char) : Option Nat :=
  if text.isEmpty then some Level.trace.rank else rank? text

/-- A directive that is a level alone or a target alone, which keeps everything. -/
def bare (text : List Char) : Directive :=
  match text, rank? text with
  | [], _ => ⟨none, Level.trace.rank⟩
  | _, some rank => ⟨none, rank⟩
  | text, none => ⟨some (String.ofList text), Level.trace.rank⟩

/-- What one directive of a text says.  Those about spans keep no entry of this program. -/
inductive Reading where
  | entries (directive : Directive)
  | spans

/-- The level behind the part of a directive in brackets. -/
def afterBrackets (text : List Char) : Option Reading :=
  match text with
  | [] => some .spans
  | '=' :: level => (rankBehind? level).map fun _ => .spans
  | _ => none

/-- The part of a directive in brackets: a span, and fields in braces. -/
def brackets (target : Option String) (text : List Char) : Option Reading :=
  match text.span fun c => c != ']' && c != '\x7b' with
  | ([], ']' :: rest) =>
    match rest with
    | [] => some (.entries ⟨target, Level.trace.rank⟩)
    | '=' :: level => (rankBehind? level).map fun rank => .entries ⟨target, rank⟩
    | _ => none
  | (_, ']' :: rest) => afterBrackets rest
  | (_, _ :: fields) =>
    match fields.span (· != '\x7d') with
    | (_ :: _, _ :: ']' :: rest) => afterBrackets rest
    | _ => none
  | (_, []) => none

/-- A character that a directive can start with. -/
def startsDirective (c : Char) : Bool :=
  c.isAlphanum || 0x80 ≤ c.toNat || c == '-' || c == ':' || c == '_'

def readDirective (text : List Char) : Option Reading :=
  match text with
  | [] => none
  | '[' :: rest => brackets none rest
  | c :: _ =>
    if !startsDirective c then none
    else
      match text.span fun c => c != '=' && c != '[' with
      | (target, '=' :: level) =>
        (rankBehind? level).map fun rank => .entries ⟨some (String.ofList target), rank⟩
      | (target, _ :: rest) => brackets (some (String.ofList target)) rest
      | (text, []) => some (.entries (bare text))

/-- The filter of a text; an empty one keeps errors only. -/
def parse? (text : String) : Option Filter := do
  let parts := (text.toList.splitOn ',').filter (!·.isEmpty)
  if parts.isEmpty then some [⟨none, Level.error.rank⟩]
  else
    let readings ← parts.mapM readDirective
    some <| readings.filterMap fun
      | .entries directive => some directive
      | .spans => none

/-- The filter that is used unless another one is given. -/
def default (verbose : Bool) : Filter :=
  let rank := if verbose then Level.debug.rank else Level.warn.rank
  [⟨some "lwm2m_trigger", rank⟩, ⟨none, Level.warn.rank⟩]

/-- The filter of a text, or the default if there is none or it is malformed. -/
def choose (text : Option String) (verbose : Bool) : Filter :=
  (text.bind parse?).getD (default verbose)

/-! ## Filtering -/

/-- How closely a directive fits a speaker; none if it does not. -/
def fit? (target : String) (directive : Directive) : Option Nat :=
  match directive.target with
  | none => some 0
  | some start => if start.toList.isPrefixOf target.toList then some (start.length + 1) else none

/-- The rank that the directives set for a speaker: that of the closest one, the later of two that
are equally close. -/
def rankFor (filter : Filter) (target : String) : Nat :=
  (filter.foldl (fun (best : Nat × Nat) directive =>
    match fit? target directive with
    | some fit => if best.1 ≤ fit + 1 then (fit + 1, directive.greatestRank) else best
    | none => best) (0, 0)).2

def keeps (filter : Filter) (entry : Entry) : Bool :=
  entry.level.rank ≤ filter.rankFor entry.target

end Filter

end Stimulus.Log
