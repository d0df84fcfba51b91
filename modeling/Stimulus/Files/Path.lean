/-!
File paths as text: names with slashes between them.  Slashes that are doubled and names that are a
single dot stand for nothing, except a dot at the front.
-/

namespace Stimulus.Path

/-- A path in reverse without the slashes and dots at its end that stand for nothing. -/
def trimEnd : List Char → List Char
  | '.' :: '/' :: rest => trimEnd ('/' :: rest)
  | '/' :: c :: rest => trimEnd (c :: rest)
  | path => path

/-- The path of the directory that a path names something in; none for the root and for an empty
path. -/
def parent? (path : String) : Option String :=
  match trimEnd path.toList.reverse with
  | [] | ['/'] => none
  | trimmed => some (String.ofList (trimEnd (trimmed.dropWhile (· != '/'))).reverse)

/-- A path that does not start at the root. -/
def isRelative (path : String) : Bool :=
  path.toList.head? != some '/'

/-- A relative path taken from a directory. -/
def join (directory path : String) : String :=
  if directory.isEmpty || directory.toList.getLast? == some '/' then directory ++ path
  else directory ++ "/" ++ path

end Stimulus.Path
