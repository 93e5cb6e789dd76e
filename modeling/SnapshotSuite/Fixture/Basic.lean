import SnapshotSuite.Compiler.Failure
import SnapshotSuite.Document.Basic
import SnapshotSuite.Document.Fault
/-!
# Fixtures

A fixture is a directory with one input, up to two documents that change how it is compiled, and
the recorded snapshot of its output.
-/

namespace SnapshotSuite

/-- A directory that holds a fixture, by its path, and the name of the fixture. -/
structure FixtureDir where
  /-- The name of the fixture. -/
  name : String
  /-- The path of its directory. -/
  path : Path
deriving DecidableEq, Repr

namespace FixtureDir

/-- The overrides of the compiler's configuration. -/
def hostPath (dir : FixtureDir) : Path := Path.join dir.path ".swcrc"

/-- The payload for the plugin. -/
def payloadPath (dir : FixtureDir) : Path := Path.join dir.path "config.json"

/-- The recorded output. -/
def snapshotPath (dir : FixtureDir) : Path := Path.join dir.path "output.js"

end FixtureDir

/-- A fixture that has been read. -/
structure Fixture where
  /-- The directory it was read from. -/
  dir : FixtureDir
  /-- The path of its input. -/
  inputPath : Path
  /-- The extension of its input with a dot, empty if it has none. -/
  extension : String
  /-- The overrides of the compiler's configuration. -/
  host : Option Document
  /-- The payload for the plugin. -/
  payload : Option Document

/-- Why a fixture did not pass. -/
inductive FixtureError where
  /-- The directory has no input. -/
  | missingInput (dir : Path)
  /-- The directory has more than one input. -/
  | ambiguousInput (dir : Path) (candidates : List String)
  /-- A file of the fixture holds no document. -/
  | invalidDocument (path : Path) (cause : Document.ReadError)
  /-- No snapshot has been recorded. -/
  | missingSnapshot (path : Path)
  /-- The compiler gave no text. -/
  | compiler (failure : CompilerFailure)
  /-- The output is not that of the snapshot. -/
  | mismatch (path : Path) (expected actual : String)
  /-- A file or directory of the fixture cannot be used. -/
  | access (path : Path) (cause : AccessError)
deriving DecidableEq, Repr

/-- The message for an error. -/
def FixtureError.message : FixtureError → String
  | .missingInput dir => "no input file found in " ++ dir
  | .ambiguousInput dir candidates =>
    "multiple input files found in " ++ dir ++ ": " ++ ", ".intercalate candidates
  | .invalidDocument path cause => "failed to parse " ++ path ++ ": " ++ cause.message
  | .missingSnapshot path => "no output file found at " ++ path
  | .compiler failure => "compiler backend failed: " ++ failure.message
  | .mismatch path _ _ => "output does not match snapshot at " ++ path
  | .access path cause => "failed to access " ++ path ++ ": " ++ cause.message

end SnapshotSuite
