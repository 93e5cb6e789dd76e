import SnapshotSuite.Document.Reader
import SnapshotSuite.Fixture.Discovery
/-!
# Reading fixtures

The input of a fixture is the only regular file in its directory whose name is `input`, with any
extension or none. The two documents are optional: one that is there has to be well formed. Of
several faults the first counts, the input before the overrides and these before the payload.
-/

namespace SnapshotSuite

namespace Fixture

/-- The names of the files that could be the input of a fixture, in order. -/
def candidates (w : Workspace) (dir : Path) (names : List String) : List String :=
  sortNames (names.filter fun name =>
    w.isFile (Path.join dir name) && Path.stem name == "input")

/-- The name of the input of a fixture. -/
def inputName (w : Workspace) (dir : Path) : Except FixtureError String :=
  match w.entries dir with
  | .error cause => .error (.access dir cause)
  | .ok names =>
    match candidates w dir names with
    | [] => .error (.missingInput dir)
    | [name] => .ok name
    | names => .error (.ambiguousInput dir names)

/-- The extension of an input with its dot, empty if it has none. -/
def dottedExtension (name : String) : String :=
  match Path.extension? name with
  | some extension => "." ++ extension
  | none => ""

/-- The document in a file, if there is a regular file. -/
def readOptional (w : Workspace) (path : Path) : Except FixtureError (Option Document) :=
  if w.isFile path then
    match w.readText path with
    | .error cause => .error (.access path cause)
    | .ok text =>
      match Document.read text with
      | .error cause => .error (.invalidDocument path cause)
      | .ok document => .ok (some document)
  else .ok none

/-- The fixture in a directory. -/
def load (w : Workspace) (dir : FixtureDir) : Except FixtureError Fixture := do
  let name ← inputName w dir.path
  let host ← readOptional w dir.hostPath
  let payload ← readOptional w dir.payloadPath
  return {
    dir
    inputPath := Path.join dir.path name
    extension := dottedExtension name
    host
    payload }

end Fixture

end SnapshotSuite
