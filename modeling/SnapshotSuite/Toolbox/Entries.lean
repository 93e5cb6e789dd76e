import SnapshotSuite.Toolbox.Job
/-!
# Entries of directories

The calls that make, remove and move what stands in directories. A file that moves stays runnable,
and whoever has a file open keeps it open.
-/

namespace SnapshotSuite

namespace Toolbox

/-- The last name of a path, without the slashes behind it. -/
def lastNameOf (path : Octets) : Option String :=
  (Path.components (Octets.text path)).getLast?

namespace World

/-- The location that a path leads to, seen from a process. -/
def locate (world : World) (process : Process) (path : Octets) : Except SystemError Location :=
  ((process.workspace world).locate (Octets.text path)).mapError .access

/-- The location of the entry that a path names, seen from a process. -/
def entry (world : World) (process : Process) (path : Octets) : Except SystemError Location :=
  ((process.workspace world).entry (Octets.text path)).mapError .access

/-- Makes a directory where nothing stands. -/
def makeDirectory (process : Process) (path : Octets) (world : World) :
    Except SystemError World := do
  let place ← world.entry process path
  if (world.tree.at? place).isSome then throw .exists
  else return { world with tree := world.tree.put place .directory }

/-- An open file once what stands at a location has been removed. What it has not read of a removed
file is still there for it, and what it writes is lost. -/
def detachedFile (world : World) (removed : Location) (file : OpenFile) : OpenFile :=
  match file.stream with
  | .file place offset =>
    if !removed.isSuffixOf place then file
    else if file.isReadable then
      { file with stream := .source ((world.contentAt place).drop offset) false }
    else { file with stream := .nothing }
  | _ => file

/-- The world without what stands at a location and below it. -/
def without (world : World) (place : Location) : World :=
  { world with
    tree := world.tree.remove place,
    files := world.files.map (world.detachedFile place) }

/-- Removes a file. -/
def removeFile (process : Process) (path : Octets) (world : World) :
    Except SystemError World := do
  let place ← world.locate process path
  if world.tree.at? place = some .directory then throw (.access .isDirectory)
  else return world.without place

/-- Removes a directory that has no entries. -/
def removeDirectory (process : Process) (path : Octets) (world : World) :
    Except SystemError World := do
  let place ← world.locate process path
  if world.tree.at? place ≠ some .directory then throw (.access .notDirectory)
  else if place = [] then throw .busy
  else if lastNameOf path = some "." then throw .invalid
  else if world.tree.names place ≠ [] then throw .notEmpty
  else return world.without place

/-- Removes what stands at a path, with all that is below it. -/
def removeAll (process : Process) (path : Octets) (world : World) :
    Except SystemError World := do
  return world.without (← world.locate process path)

/-- An open file once what stands at one place has moved to another. -/
def relocatedFile (source target : Location) (file : OpenFile) : OpenFile :=
  match file.stream with
  | .file place offset => { file with stream := .file (Tree.relocated source target place) offset }
  | .directory place => { file with stream := .directory (Tree.relocated source target place) }
  | _ => file

/-- The world with what stands at a location moved to another. -/
def move (world : World) (source target : Location) : World :=
  let world := world.without target
  { world with
    tree := world.tree.move source target,
    files := world.files.map (relocatedFile source target) }

/-- The world with what stands at a location also at another. -/
def copy (world : World) (source target : Location) : World :=
  { world with tree := world.tree.copy source target }

end World

/-- Changes the world by a call that may fail. -/
def Job.change (call : Process → World → Except SystemError World) :
    Job (Except SystemError Unit) := do
  let process ← read
  Job.attempt fun world => (call process world).map ((), ·)

/-- Does something for each operand, and succeeds if it did so for all. -/
def forOperands (operands : List Octets) (act : Octets → Job Bool) : Job ExitStatus := do
  let successes ← operands.mapM act
  return endingWith (successes.all id)

end Toolbox

end SnapshotSuite
