import SnapshotSuite.Compiler.Plugin
import SnapshotSuite.Fixture.Basic
import SnapshotSuite.Settings.Basic
/-!
# Errors that stop a command

A fixture that fails is an outcome of a run; the errors here keep a command from being carried out,
or say that a run was no success.
-/

namespace SnapshotSuite

/-- Why a command failed. -/
inductive SuiteError where
  /-- The settings cannot be loaded. -/
  | settings (error : SettingsError)
  /-- The path of the plugin is no text. -/
  | plugin (error : PathNotText)
  /-- No directory stands where the fixtures should be. -/
  | rootMissing (root : Path)
  /-- No directory stands where a fixture was asked for. -/
  | fixtureMissing (path : Path)
  /-- Some fixtures did not pass. -/
  | fixturesFailed (count : Nat)
  /-- A fixture cannot be read. -/
  | fixture (error : FixtureError)
deriving DecidableEq, Repr

namespace SettingsError

/-- The words for an error. Those for a malformed file are the first ones only: a colon follows them,
and what the reader of tables says about the file. -/
def words : SettingsError → String
  | .missing path => "Configuration file not found: " ++ path
  | .access cause => cause.message
  | .malformed => "Failed to parse configuration"

end SettingsError

namespace SuiteError

/-- The words for an error, its class left out. -/
def words : SuiteError → String
  | .settings error => error.words
  | .plugin error => "Cannot determine plugin path: " ++ error.message
  | .rootMissing root => "Fixtures directory does not exist: " ++ root
  | .fixtureMissing path => "Fixture not found: " ++ path
  | .fixturesFailed count => toString count ++ " fixture(s) failed"
  | .fixture error => error.message

/-- The message for an error. -/
def message (error : SuiteError) : String :=
  match error with
  | .settings (.access _) => "IO error: " ++ error.words
  | .settings _ | .plugin _ => "Configuration error: " ++ error.words
  | .rootMissing _ | .fixtureMissing _ => "Validation error: " ++ error.words
  | .fixturesFailed _ => "Command execution failed: " ++ error.words
  | .fixture _ => error.words

end SuiteError

end SnapshotSuite
