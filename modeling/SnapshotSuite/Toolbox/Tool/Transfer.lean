import SnapshotSuite.Toolbox.Tool.Entries
import SnapshotSuite.Toolbox.Tool.Plain
/-!
# Copying and moving

Files and directories are copied or moved to another path, or into a directory under the names that
they have. A file and a directory never take the place of one another.
-/

namespace SnapshotSuite

namespace Toolbox

namespace Transfer

/-- A source and what becomes of it. -/
structure Step where
  /-- The path of the source. -/
  source : Octets
  /-- Where it stands. -/
  sourcePlace : Location
  /-- The path to which it goes. -/
  target : Octets
  /-- The location of that path. -/
  targetPlace : Location

namespace Step

/-- The two paths in a complaint. -/
def shown (step : Step) (before between : Octets) : Octets :=
  before ++ shellQuotedAlways step.source ++ between ++ shellQuotedAlways step.target

/-- Why what stands at a target cannot make way for a source, if so. -/
def conflict? (step : Step) (tree : Tree) : Option Octets :=
  match tree.at? step.sourcePlace, tree.at? step.targetPlace with
  | some (.file _), some .directory =>
    some ("cannot overwrite directory " ++ shellQuotedAlways step.target ++ " with non-directory")
  | some .directory, some (.file _) =>
    some ("cannot overwrite non-directory " ++ shellQuotedAlways step.target ++
      " with directory " ++ shellQuotedAlways step.source)
  | _, _ => none

end Step

/-- Fails with a complaint. -/
def failing (name complaint : Octets) : Job Bool := do
  Job.complain (name ++ ": " ++ complaint)
  return false

/-- The path of the entry that a source gets in a directory. -/
def entryPath (directory source : Octets) : Octets :=
  let base := String.ofList (baseName source)
  if Path.endsInSlash directory then directory ++ base else directory ++ "/" ++ base

/-- Does what is to be done with one source, once both ends are known. A target where nothing can
stand makes the complaint that `absent` words. -/
def withEnds (name : Octets) (absent : (target : Octets) → (isFile : Bool) → Octets)
    (act : Step → Job Bool) (source target : Octets) : Job Bool := do
  let world ← get
  let process ← read
  match world.locate process source with
  | .error error =>
    failing name ("cannot stat " ++ shellQuotedAlways source ++ ": " ++ error.words)
  | .ok sourcePlace =>
    let isFile := world.tree.at? sourcePlace ≠ some .directory
    match world.entry process target with
    | .error error => failing name (absent target isFile ++ ": " ++ error.words)
    | .ok targetPlace =>
      if isFile ∧ Path.endsInSlash target ∧ world.tree.at? targetPlace ≠ some .directory then
        failing name (absent target isFile ++ ": " ++ (SystemError.access .notDirectory).words)
      else act ⟨source, sourcePlace, target, targetPlace⟩

/-- A tool that does something with each of its sources and the path to which it goes. -/
def tool (options : List ToolOption)
    (act : (name : Octets) → Arguments → (source target : Octets) → Job Bool) : Tool :=
  withOptions options fun name arguments => do
    match arguments.operands with
    | [] => misused 1 name "missing file operand"
    | [operand] =>
      misused 1 name ("missing destination file operand after " ++ shellQuotedAlways operand)
    | operands =>
      let target := operands.getLast?.getD ""
      let sources := operands.dropLast
      let isDirectory := (← Job.workspace).isDirectory (Octets.text target)
      if isDirectory then
        forOperands sources fun source => act name arguments source (entryPath target source)
      else
        match sources, (← get).locate (← read) target with
        | [source], _ => forOperands [source] fun source => act name arguments source target
        | _, .ok _ =>
          complaining 1 (name ++ ": target " ++ shellQuotedAlways target ++ ": " ++
            (SystemError.access .notDirectory).words)
        | _, .error error =>
          complaining 1 (name ++ ": target " ++ shellQuotedAlways target ++ ": " ++ error.words)

/-- Copies one source. -/
def copyOne (name : Octets) (arguments : Arguments) (source target : Octets) : Job Bool :=
  let isRecursive := "arR".toList.any arguments.has
  let absent (target : Octets) (isFile : Bool) : Octets :=
    (if isFile then "cannot create regular file " else "cannot create directory ") ++
      shellQuotedAlways target
  withEnds name absent (fun step => do
    let world ← get
    let isDirectory := world.tree.at? step.sourcePlace = some .directory
    if isDirectory ∧ !isRecursive then
      failing name ("-r not specified; omitting directory " ++ shellQuotedAlways source)
    else if isDirectory ∧ step.sourcePlace.isSuffixOf step.targetPlace then
      failing name (step.shown "cannot copy a directory, " ", into itself, ")
    else if step.sourcePlace = step.targetPlace then
      failing name (step.shown "" " and " ++ " are the same file")
    else
      match step.conflict? world.tree with
      | some complaint => failing name complaint
      | none =>
        modify (·.copy step.sourcePlace step.targetPlace)
        return true) source target

/-- Moves one source. -/
def moveOne (name : Octets) (_ : Arguments) (source target : Octets) : Job Bool :=
  let unmoved := "cannot move " ++ shellQuotedAlways source ++ " to "
  withEnds name (fun target _ => unmoved ++ shellQuotedAlways target) (fun step => do
    let world ← get
    let lastName := lastNameOf source
    if lastName = none ∨ lastName = some "." ∨ lastName = some ".." then
      failing name (step.shown "cannot move " " to " ++ ": " ++ SystemError.busy.words)
    else if step.sourcePlace = step.targetPlace then
      failing name (step.shown "" " and " ++ " are the same file")
    else if step.sourcePlace.isSuffixOf step.targetPlace then
      failing name (step.shown "cannot move " " to a subdirectory of itself, ")
    else if world.tree.names step.targetPlace ≠ [] then
      failing name ("cannot overwrite " ++ shellQuotedAlways step.target ++ ": " ++
        SystemError.notEmpty.words)
    else
      match step.conflict? world.tree with
      | some complaint => failing name complaint
      | none =>
        modify (·.move step.sourcePlace step.targetPlace)
        return true) source target

end Transfer

/-- Copies files and, on request, directories. -/
def cp : Tool :=
  Transfer.tool
    [⟨'a', "archive", false⟩, ⟨'d', "", false⟩, ⟨'f', "force", false⟩, ⟨'p', "", false⟩,
      ⟨'r', "recursive", false⟩, ⟨'R', "recursive", false⟩]
    Transfer.copyOne

/-- Moves files and directories. -/
def mv : Tool :=
  Transfer.tool [⟨'f', "force", false⟩] Transfer.moveOne

end Toolbox

end SnapshotSuite
