import SnapshotSuite.Text.Utf8
/-!
# File trees

A tree says for every location what stands there: a file with its content, a directory, or
nothing. A location lists names from the innermost one out, so the entries of a directory are the
locations with one name more in front. The root is always a directory. Some files may be run; that
does not depend on their content, and goes where they go.

A tree is simpler than a disk. It has no links, so each location is reached by its names alone. All
of it may be read and written: permissions are left out, apart from the one to be run. It is never
full and has no faults, so a file that is written is written as a whole. All names are texts; a name
of other bytes has no place in it.
-/

namespace SnapshotSuite

/-- A place in a tree: the names that lead to it, the innermost first. -/
abbrev Location := List String

/-- What can stand at a location. -/
inductive Node where
  /-- A regular file. -/
  | file (content : Bytes)
  /-- A directory. -/
  | directory
deriving DecidableEq, Repr

/-- The files and directories below the root. -/
structure Tree where
  /-- What stands where; the first entry for a location counts. -/
  entries : List (Location × Node)
  /-- The files that may be run. -/
  runnable : List Location
deriving DecidableEq, Repr

namespace Tree

/-- The tree with nothing below the root. -/
def empty : Tree := ⟨[], []⟩

/-- What stands at a location. -/
def at? (tree : Tree) : Location → Option Node
  | [] => some .directory
  | name :: parent => tree.entries.lookup (name :: parent)

/-- The tree with a node put at a location. -/
def put (tree : Tree) (location : Location) (node : Node) : Tree :=
  { tree with
    entries := (location, node) :: tree.entries.filter fun entry => entry.1 != location }

/-- The tree without what stands at a location and below it. -/
def remove (tree : Tree) (location : Location) : Tree :=
  ⟨tree.entries.filter fun entry => !location.isSuffixOf entry.1,
    tree.runnable.filter (!location.isSuffixOf ·)⟩

/-- Where a location lies once what stands at one place has moved to another. -/
def relocated (source target location : Location) : Location :=
  if source.isSuffixOf location then location.take (location.length - source.length) ++ target
  else location

/-- The tree with what stands at a location, and below it, moved to another place. What stood there
is lost. -/
def move (tree : Tree) (source target : Location) : Tree :=
  let others := tree.remove target
  ⟨others.entries.map fun entry => (relocated source target entry.1, entry.2),
    others.runnable.map (relocated source target)⟩

/-- The tree with what stands at a location, and below it, also at another place. -/
def copy (tree : Tree) (source target : Location) : Tree :=
  let copied := tree.entries.filter fun entry => source.isSuffixOf entry.1
  let runnable := (tree.runnable.filter source.isSuffixOf).map (relocated source target)
  copied.foldl (fun tree entry => tree.put (relocated source target entry.1) entry.2)
    { tree with runnable := runnable ++ tree.runnable }

/-- Whether a file may be run. -/
def isRunnable (tree : Tree) (location : Location) : Bool :=
  tree.runnable.contains location

/-- The tree with a file that may be run, or may not. -/
def withRunnable (tree : Tree) (location : Location) (mayRun : Bool) : Tree :=
  let others := tree.runnable.filter (· ≠ location)
  { tree with runnable := if mayRun then location :: others else others }

/-- The names of the entries of a directory, in no particular order. -/
def names (tree : Tree) (directory : Location) : List String :=
  (tree.entries.filterMap fun entry =>
    match entry.1 with
    | name :: parent => if parent = directory then some name else none
    | [] => none).eraseDups

/-- The tree with a directory at a location and at every location above it, files left alone. -/
def makeDirectories (tree : Tree) : Location → Tree
  | [] => tree
  | name :: parent =>
    let tree := makeDirectories tree parent
    match tree.at? (name :: parent) with
    | some _ => tree
    | none => tree.put (name :: parent) .directory

@[simp] theorem at?_nil (tree : Tree) : tree.at? [] = some .directory := rfl

end Tree

end SnapshotSuite
