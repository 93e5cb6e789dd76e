import SnapshotSuite.Suite.Error
/-!
# Errors with their parts named

A command that fails ends with its error in full: every case by its name, every text in quotes.
-/

namespace SnapshotSuite

/-- The fault of a document and where it is. -/
def Document.ReadError.details (error : Document.ReadError) : String :=
  wrapped "Error" (quoted error.cause.text ++ ", line: " ++ toString error.line ++ ", column: " ++
    toString error.column)

/-- A failure of a compiler with its parts named. -/
def CompilerFailure.details : CompilerFailure → String
  | .notStarted program cause =>
    labelled "Spawn" [("program", quoted program), ("source", cause.details)]
  | .failed program status stderr =>
    labelled "Failed"
      [("program", quoted program), ("status", quoted status), ("stderr", quoted stderr)]
  | .notText program => labelled "InvalidOutput" [("program", quoted program)]
  | .notPrepared cause => wrapped "Io" cause.details

/-- An error of a fixture with its parts named. -/
def FixtureError.details : FixtureError → String
  | .missingInput dir => labelled "MissingInputFile" [("dir", quoted dir)]
  | .ambiguousInput dir candidates =>
    labelled "AmbiguousInputFile" [("dir", quoted dir), ("candidates", quotedList candidates)]
  | .invalidDocument path cause =>
    labelled "InvalidDocument" [("path", quoted path), ("source", cause.details)]
  | .missingSnapshot path => labelled "MissingSnapshot" [("path", quoted path)]
  | .compiler failure => wrapped "Compiler" failure.details
  | .mismatch path expected actual =>
    labelled "SnapshotMismatch"
      [("path", quoted path), ("expected", quoted expected), ("actual", quoted actual)]
  | .access path cause => labelled "Io" [("path", quoted path), ("source", cause.details)]

/-- An error that stops a command, with its parts named. -/
def SuiteError.details (error : SuiteError) : String :=
  match error with
  | .settings (.access cause) => wrapped "Io" cause.details
  | .settings _ | .plugin _ => wrapped "Config" (quoted error.words)
  | .rootMissing _ | .fixtureMissing _ => wrapped "Validation" (quoted error.words)
  | .fixturesFailed _ => wrapped "CommandExecution" (quoted error.words)
  | .fixture error => wrapped "Fixture" error.details

end SnapshotSuite
