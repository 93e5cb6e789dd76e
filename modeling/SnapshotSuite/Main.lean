import SnapshotSuite.CommandLine.Answer
import SnapshotSuite.Toolbox.Child
/-!
# The program

Reads what a command needs from disk into a workspace, answers the command line there, and writes
the recorded snapshots back. The programs that a command can call are those of the toolbox.
-/

namespace SnapshotSuite

namespace Program

/-- The variables that the program or the programs that it calls may ask for. -/
def variableNames : List String :=
  ["HOME", "PATH", "XDG_CONFIG_HOME", "UPDATE", "JSXSNAP_VERBOSE", "JSXSNAP_CONFIG",
    "JSXSNAP_NO_COLOR"]

/-- The variables that are set. -/
def environment : IO (List (String × String)) := do
  let values ← variableNames.mapM fun name => return (name, ← IO.getEnv name)
  return values.filterMap fun (name, value?) => value?.map (name, ·)

/-- What stands at a path, if anything does, and the names in it, if it is a directory. -/
def look (path : Path) : IO (Option (Node × List String)) := do
  let file := (← IO.currentDir) / path
  if ← file.isDir then
    return some (.directory, (← file.readDir).toList.map (·.fileName))
  else if ← file.pathExists then
    return some (.file (← IO.FS.readBinFile file).toList, [])
  else return none

/-- The workspace with what stands at a path, and with what stands below it to a depth. -/
def load (w : Workspace) (path : Path) : (depth : Nat) → IO Workspace
  | 0 => do
    match ← look path with
    | some (node, _) => return w.withNode path node
    | none => return w
  | depth + 1 => do
    match ← look path with
    | some (node, names) =>
      names.foldlM (fun w name => load w (Path.join path name) depth) (w.withNode path node)
    | none => return w

/-- The directory of the fixtures of a request. -/
def root (request : Request) (settings : Settings) : Path :=
  match request.action with
  | .run fixtures .. | .list fixtures | .resolve _ fixtures => settings.root fixtures

/-- The workspace with all that a request may read: the files of settings, and the fixtures with
their files. -/
def loadFor (request : Request) (surroundings : Surroundings) (w : Workspace) : IO Workspace := do
  let files := request.settingsFile.toList ++ Settings.candidates surroundings.userDirs
  let w ← files.foldlM (fun w file => load w file 0) w
  match Settings.load w surroundings.userDirs request.settingsFile with
  | .error _ => return w
  | .ok settings => load w (root request settings) 2

/-- The path of a location. -/
def pathOf (place : Location) : Path :=
  "/" ++ "/".intercalate place.reverse

/-- Makes the files and directories on disk what they are in a workspace, where they differ from
those of another one. -/
def save (before after : Workspace) : IO Unit := do
  for (place, node) in before.tree.entries do
    if (after.tree.at? place).isNone then
      match node with
      | .file _ => IO.FS.removeFile (pathOf place)
      | .directory => IO.FS.removeDirAll (pathOf place)
  for (place, node) in after.tree.entries.reverse do
    if before.tree.at? place ≠ some node then
      match node with
      | .file content =>
        IO.FS.createDirAll (pathOf place.tail)
        IO.FS.writeBinFile (pathOf place) ⟨content.toArray⟩
      | .directory => IO.FS.createDirAll (pathOf place)

/-- The line of an event with a color for its level. -/
def coloredLine (event : Event) : String :=
  let color :=
    match event.level with
    | .warn => "33"
    | .info => "32"
    | .debug => "34"
  "\x1b[" ++ color ++ "m" ++ event.level.name ++ "\x1b[0m " ++ event.text ++ "\n"

/-- Shows an answer and gives its code. -/
def showAnswer (answer : Answer) : IO UInt32 := do
  let line := if answer.isColored then coloredLine else Event.line
  IO.eprint (String.join (answer.log.map line))
  IO.print answer.output
  IO.eprint answer.complaint
  return UInt32.ofNat answer.exitCode

/-- A time in thousandths of a second, as seconds with two places. -/
def seconds (milliseconds : Nat) : String :=
  let digit (n : Nat) : String := toString (n % 10)
  toString (milliseconds / 1000) ++ "." ++ digit (milliseconds / 100) ++ digit (milliseconds / 10)

end Program

end SnapshotSuite

open SnapshotSuite

/-- Answers the words of a command line. The only home directory that it knows is the one that the
environment names. -/
def main (words : List String) : IO UInt32 := do
  let directory := (← IO.currentDir).toString
  let place := (Path.components directory).reverse
  let environment ← Program.environment
  let surroundings : Surroundings :=
    { directory := Utf8.bytesOf directory
      environment := fun name => environment.lookup name
      child := Toolbox.child environment
      configPath := "/tmp/jsxsnap-config.json"
      elapsed := "0.00" }
  let start : Workspace := ⟨Tree.empty.makeDirectories place, place⟩
  let before ←
    match CommandLine.read surroundings.environment words with
    | .error _ => pure start
    | .ok request => Program.loadFor request surroundings start
  let begun ← IO.monoMsNow
  let (_, after) := answer surroundings before words
  Program.save before after
  -- The report names the time that the run took, so it is made once that is known.
  let elapsed := Program.seconds ((← IO.monoMsNow) - begun)
  Program.showAnswer (answer { surroundings with elapsed } before words).1
