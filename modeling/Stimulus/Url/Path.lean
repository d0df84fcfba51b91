import Stimulus.Url.Percent

/-!
Paths as lists of encoded segments.  `resolve` takes the segments of a given path in order and
follows the dot segments among them; `push` adds one segment to a finished path.
-/

namespace Stimulus.Url.Path

/-- What a segment does to the path before it. -/
inductive Step where
  /-- It is one more segment. -/
  | down
  /-- It stays where it is. -/
  | stay
  /-- It goes back over the last segment. -/
  | up
  deriving DecidableEq

/-- A dot, written out or encoded, at the front of a segment, and what follows it. -/
def dot? : List Char → Option (List Char)
  | '.' :: rest => some rest
  | '%' :: '2' :: 'e' :: rest => some rest
  | '%' :: '2' :: 'E' :: rest => some rest
  | _ => none

/-- One dot stays and two dots go up. -/
def step (segment : List Char) : Step :=
  match dot? segment with
  | none => .down
  | some [] => .stay
  | some rest =>
    match dot? rest with
    | some [] => .up
    | _ => .down

/-- A letter and a colon or bar: such a segment is never gone back over. -/
def isDrive : List Char → Bool
  | [letter, mark] => letter.isAlpha && (mark == ':' || mark == '|')
  | _ => false

/-- The segments without the last one, unless that is a drive. -/
def shorten (segments : List (List Char)) : List (List Char) :=
  if segments.getLast?.any isDrive then segments else segments.dropLast

/-- The path that `segments` lead to from the complete segments `done`.  A dot segment at the end
leaves the path open, with an empty segment. -/
def resolve (done : List (List Char)) : List (List Char) → List (List Char)
  | [] => done
  | [last] =>
    match step last with
    | .down => done ++ [last]
    | .stay => done ++ [[]]
    | .up => shorten done ++ [[]]
  | segment :: rest =>
    match step segment with
    | .down => resolve (done ++ [segment]) rest
    | .stay => resolve done rest
    | .up => resolve (shorten done) rest

/-- The text of a path cut at its slashes; a backslash is one too. -/
def split (text : List Char) : List (List Char) :=
  (text.map fun c => if c = '\\' then '/' else c).splitOn '/'

/-- The path of a URL, given as text behind the host. -/
def parse (text : List Char) : List (List Char) :=
  let inner := match text with
    | '/' :: rest | '\\' :: rest => rest
    | text => text
  resolve [] ((split inner).map (Percent.encode Percent.inPath))

/-- A path without an empty last segment, unless it is the root. -/
def dropOpenEnd (path : List (List Char)) : List (List Char) :=
  if 1 < path.length ∧ path.getLast? = some [] then path.dropLast else path

/-- Tabs and line ends are left out of URLs wherever they stand. -/
def isIgnored (c : Char) : Bool :=
  c == '\t' || c == '\n' || c == '\r'

/-- The path with one more segment, given as plain text.  The segments `.` and `..` are left out;
the root has no segment to keep. -/
def push (path : List (List Char)) (segment : List Char) : List (List Char) :=
  if segment = ['.'] ∨ segment = ['.', '.'] then path
  else
    let done := if path = [[]] then [] else path
    resolve done [Percent.encode Percent.inSegment (segment.filter (!isIgnored ·))]

/-- The path with more segments at its end, its own end closed. -/
def extend (path : List (List Char)) (segments : List (List Char)) : List (List Char) :=
  segments.foldl push (dropOpenEnd path)

end Stimulus.Url.Path
