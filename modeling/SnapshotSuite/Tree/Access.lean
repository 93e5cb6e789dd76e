import SnapshotSuite.Tree.Basic
import SnapshotSuite.Tree.Path
/-!
# Access to a tree by paths

A workspace is a tree and the directory in which relative paths start. A path is walked name by
name: every name but the last has to lead to a directory, `.` stays and `..` goes up. The first
name that leads nowhere decides the error.
-/

namespace SnapshotSuite

/-- Why a path cannot be used. -/
inductive AccessError where
  /-- Nothing stands there. -/
  | notFound
  /-- The caller may not use what stands there. -/
  | denied
  /-- A file stands where a directory has to. -/
  | notDirectory
  /-- A directory stands where a file has to. -/
  | isDirectory
  /-- A name of more than 255 bytes, or a path of more than 4095. -/
  | nameTooLong
  /-- The path has a NUL. -/
  | nulInPath
  /-- A word for a program has a NUL. -/
  | nulInWord
  /-- The content is not UTF-8 where a text is wanted. -/
  | notText
  /-- The content is no program. -/
  | notProgram
deriving DecidableEq, Repr

/-- A tree and the directory in which relative paths start. -/
structure Workspace where
  /-- The files and directories. -/
  tree : Tree
  /-- The working directory. -/
  cwd : Location

namespace Workspace

/-- The location that one name leads to from a location. -/
def step (tree : Tree) (place : Location) (name : String) : Except AccessError Location :=
  if tree.at? place ≠ some .directory then .error .notDirectory
  else if name = "." then .ok place
  else if name = ".." then .ok place.tail
  else if 255 < Utf8.size name.toList then .error .nameTooLong
  else if (tree.at? (name :: place)).isNone then .error .notFound
  else .ok (name :: place)

/-- The location at which a path starts, if it can be walked at all. -/
def start (w : Workspace) (path : Path) : Except AccessError Location :=
  if path.toList.contains '\x00' then .error .nulInPath
  else if path.toList = [] then .error .notFound
  else if 4095 < Utf8.size path.toList then .error .nameTooLong
  else if Path.isAbsolute path then .ok []
  else .ok w.cwd

/-- The location that a path stands for, whether or not anything stands on the way there. -/
def place (w : Workspace) (path : Path) : Location :=
  (Path.components path).foldl (fun place name =>
    if name = "." then place else if name = ".." then place.tail else name :: place)
    (if Path.isAbsolute path then [] else w.cwd)

/-- The workspace with a node put at a path, and directories above it where nothing stands. -/
def withNode (w : Workspace) (path : Path) (node : Node) : Workspace :=
  let place := w.place path
  match node with
  | .directory => { w with tree := w.tree.makeDirectories place }
  | node => { w with tree := (w.tree.makeDirectories place.tail).put place node }

/-- The location that a path leads to. -/
def locate (w : Workspace) (path : Path) : Except AccessError Location := do
  let place ← (Path.components path).foldlM (step w.tree) (← w.start path)
  if Path.endsInSlash path ∧ w.tree.at? place ≠ some .directory then .error .notDirectory
  else return place

/-- What a path leads to. -/
def node? (w : Workspace) (path : Path) : Option Node :=
  match w.locate path with
  | .ok place => w.tree.at? place
  | .error _ => none

/-- Whether a path leads to a directory. -/
def isDirectory (w : Workspace) (path : Path) : Bool :=
  w.node? path == some .directory

/-- Whether a path leads to a regular file. -/
def isFile (w : Workspace) (path : Path) : Bool :=
  match w.node? path with
  | some (.file _) => true
  | _ => false

/-- Whether a path leads anywhere. -/
def isPresent (w : Workspace) (path : Path) : Bool :=
  (w.node? path).isSome

/-- The content of a file. -/
def readBytes (w : Workspace) (path : Path) : Except AccessError Bytes := do
  match w.tree.at? (← w.locate path) with
  | some (.file content) => return content
  | some .directory => throw .isDirectory
  | none => throw .notFound

/-- The content of a file that holds a text. -/
def readText (w : Workspace) (path : Path) : Except AccessError String := do
  match Utf8.text? (← w.readBytes path) with
  | some text => return text
  | none => throw .notText

/-- The names of the entries of a directory, in no particular order. -/
def entries (w : Workspace) (path : Path) : Except AccessError (List String) := do
  let place ← w.locate path
  match w.tree.at? place with
  | some .directory => return w.tree.names place
  | some (.file _) => throw .notDirectory
  | none => throw .notFound

/-- The location of the file that writing to a path fills. A directory has to stand above it. -/
def target (w : Workspace) (path : Path) : Except AccessError Location := do
  let place ← w.start path
  let names := Path.components path
  let parent ← names.dropLast.foldlM (step w.tree) place
  match names.getLast? with
  | none => throw .isDirectory
  | some name =>
    if w.tree.at? parent ≠ some .directory then throw .notDirectory
    else if Path.endsInSlash path ∨ name = "." ∨ name = ".." then throw .isDirectory
    else if 255 < Utf8.size name.toList then throw .nameTooLong
    else if w.tree.at? (name :: parent) = some .directory then throw .isDirectory
    else return name :: parent

/-- The location of the entry that a path names, whether or not anything stands there. A directory
has to stand above it. -/
def entry (w : Workspace) (path : Path) : Except AccessError Location := do
  let names := Path.components path
  let parent ← names.dropLast.foldlM (step w.tree) (← w.start path)
  match names.getLast? with
  | none => return parent
  | some name =>
    match step w.tree parent name with
    | .error .notFound => return name :: parent
    | found => found

/-- The workspace after writing a file, whatever the file held before. -/
def writeBytes (w : Workspace) (path : Path) (content : Bytes) : Except AccessError Workspace := do
  let place ← w.target path
  return { w with tree := w.tree.put place (.file content) }

end Workspace

end SnapshotSuite
