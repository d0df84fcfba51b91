/-!
What can be seen of a file system: which paths exist, and what reading one gives.  `FileTree` is a
file system of its own, given by its files and directories, with a working directory in which
relative paths start.
-/

namespace Stimulus

/-- Why a path cannot be read. -/
inductive FileProblem where
  | notFound
  | notDirectory
  | isDirectory
  | nameTooLong
  | zeroByte
  | notText
  /-- Any other reason, in the words of the system. -/
  | other (text : String)
  deriving DecidableEq

def FileProblem.message : FileProblem → String
  | notFound => "No such file or directory (os error 2)"
  | notDirectory => "Not a directory (os error 20)"
  | isDirectory => "Is a directory (os error 21)"
  | nameTooLong => "File name too long (os error 36)"
  | zeroByte => "file name contained an unexpected NUL byte"
  | notText => "stream did not contain valid UTF-8"
  | other text => text

/-- A file system as far as it is looked at. -/
structure FileView where
  isThere : String → Bool
  bytes : String → Except FileProblem ByteArray

def FileView.text (files : FileView) (path : String) : Except FileProblem String := do
  match String.fromUTF8? (← files.bytes path) with
  | some text => return text
  | none => .error .notText

/-- A file system.  Every path is a list of names from the root. -/
structure FileTree where
  files : List (List String × ByteArray)
  directories : List (List String)
  /-- The directory in which relative paths start. -/
  working : List String

namespace FileTree

inductive Entry where
  | file (bytes : ByteArray)
  | directory

/-- A directory is there if it was made, or if something stands below it. -/
def isDirectory (tree : FileTree) (path : List String) : Bool :=
  path.isEmpty || path.isPrefixOf tree.working ||
    tree.directories.any path.isPrefixOf ||
    tree.files.any fun file => path.isPrefixOf file.1 && path.length < file.1.length

def entry? (tree : FileTree) (path : List String) : Option Entry :=
  match tree.files.lookup path with
  | some bytes => some (.file bytes)
  | none => if tree.isDirectory path then some .directory else none

def greatestName : Nat := 255

/-- What is found by following names from a directory; a name behind a file leads nowhere. -/
def follow (tree : FileTree) : List String → List String → Except FileProblem Entry
  | place, [] => .ok ((tree.entry? place).getD .directory)
  | place, name :: rest =>
    if name = "" ∨ name = "." then follow tree place rest
    else if name = ".." then follow tree place.dropLast rest
    else if greatestName < name.utf8ByteSize then .error .nameTooLong
    else
      let next := place ++ [name]
      match tree.entry? next with
      | none => .error .notFound
      | some .directory => follow tree next rest
      | some (.file bytes) => if rest.isEmpty then .ok (.file bytes) else .error .notDirectory

def resolve (tree : FileTree) (path : String) : Except FileProblem Entry :=
  if path.toList.contains '\x00' then .error .zeroByte
  else if path.isEmpty then .error .notFound
  else
    let start := if path.toList.head? = some '/' then [] else tree.working
    tree.follow start ((path.toList.splitOn '/').map String.ofList)

def view (tree : FileTree) : FileView where
  isThere path := (tree.resolve path).isOk
  bytes path := do
    match ← tree.resolve path with
    | .file bytes => return bytes
    | .directory => .error .isDirectory

end FileTree

end Stimulus
