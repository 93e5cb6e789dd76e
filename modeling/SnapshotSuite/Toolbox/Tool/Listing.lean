import SnapshotSuite.Toolbox.Entries
import SnapshotSuite.Toolbox.Options
/-!
# Listing directories

Prints what stands in directories, a name on a line, in the order of their bytes. Operands that are
no directories are listed first, together.
-/

namespace SnapshotSuite

namespace Toolbox

namespace Listing

/-- The options. -/
def options : List ToolOption :=
  [⟨'a', "all", false⟩, ⟨'A', "almost-all", false⟩, ⟨'d', "directory", false⟩,
    ⟨'F', "classify", false⟩, ⟨'p', "", false⟩, ⟨'r', "reverse", false⟩,
    ⟨'R', "recursive", false⟩, ⟨'1', "", false⟩]

/-- Something that is listed: its name or path, and where it stands. -/
structure Item where
  /-- What is shown. -/
  name : Octets
  /-- The location. -/
  place : Location
deriving DecidableEq, Repr

/-- Items in the order in which they are listed. -/
def ordered (arguments : Arguments) (items : List Item) : List Item :=
  let items := items.mergeSort fun a b => decide (a.name ≤ b.name)
  if arguments.has 'r' then items.reverse else items

/-- The line for an item. -/
def line (arguments : Arguments) (world : World) (item : Item) : Octets :=
  let mark :=
    if world.tree.at? item.place = some .directory then
      if arguments.has 'p' || arguments.has 'F' then "/" else ""
    else if arguments.has 'F' && world.tree.isRunnable item.place then "*"
    else ""
  item.name ++ mark

/-- The items of a directory. -/
def itemsOf (arguments : Arguments) (world : World) (place : Location) : List Item :=
  let dots : List Item := if arguments.has 'a' then [⟨".", place⟩, ⟨"..", place.tail⟩] else []
  let names := (world.tree.names place).filter fun name =>
    arguments.has 'a' || arguments.has 'A' || name.toList.head? ≠ some '.'
  ordered arguments (dots ++ names.map fun name => ⟨Octets.ofText name, name :: place⟩)

/-- The path of an entry of a directory. -/
def below (directory name : Octets) : Octets :=
  if Path.endsInSlash directory then directory ++ name else directory ++ "/" ++ name

/-- The directories that are listed for one of them: itself, and on request all that are below it;
`fuel` bounds how deep they are. -/
def directoriesOf (arguments : Arguments) (world : World) : (fuel : Nat) → Item → List Item
  | 0, _ => []
  | fuel + 1, item =>
    if !arguments.has 'R' then [item]
    else
      let inner := (itemsOf arguments world item.place).filter fun inner =>
        inner.name ≠ "." && inner.name ≠ ".." && world.tree.at? inner.place = some .directory
      item :: inner.flatMap fun inner =>
        directoriesOf arguments world fuel ⟨below item.name inner.name, inner.place⟩

/-- The lines that list a directory, with a heading if there are others. -/
def block (arguments : Arguments) (world : World) (hasHeading : Bool) (item : Item) :
    List Octets :=
  (if hasHeading then [item.name ++ ":"] else []) ++
    (itemsOf arguments world item.place).map (line arguments world)

/-- Prints blocks of lines, with a blank line between them. -/
def printBlocks (blocks : List (List Octets)) : Job Unit :=
  (["\n"].intercalate (blocks.map fun lines => lines.map (· ++ "\n"))).forM Job.print

/-- The items of operands, and whether all could be found. -/
def itemsOfOperands (name : Octets) : List Octets → Job (List Item × Bool)
  | [] => return ([], true)
  | path :: paths => do
    match (← get).locate (← read) path with
    | .ok place =>
      let (items, isSuccess) ← itemsOfOperands name paths
      return (⟨path, place⟩ :: items, isSuccess)
    | .error error =>
      Job.complain (name ++ ": cannot access " ++ shellQuotedAlways path ++ ": " ++ error.words)
      let (items, _) ← itemsOfOperands name paths
      return (items, false)

end Listing

open Listing in
/-- Lists directories. -/
def ls : Tool := withArguments 2 false Listing.options fun name arguments => do
  let paths := if arguments.operands = [] then ["."] else arguments.operands
  let (items, isSuccess) ← itemsOfOperands name paths
  let world ← get
  let (directories, files) := (ordered arguments items).partition fun item =>
    world.tree.at? item.place = some .directory && !arguments.has 'd'
  let hasHeading := 1 < paths.length || arguments.has 'R'
  let fileLines := files.map (line arguments world)
  let depth := world.tree.entries.length + 1
  let blocks := (directories.flatMap (directoriesOf arguments world depth)).map
    (block arguments world hasHeading)
  printBlocks (if fileLines = [] then blocks else fileLines :: blocks)
  return .code (if isSuccess then 0 else 2)

end Toolbox

end SnapshotSuite
