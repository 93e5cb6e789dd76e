import SnapshotSuite.Text.Labelled
import SnapshotSuite.Text.Quoted
import SnapshotSuite.Tree.Access
/-!
# Wording of access errors

Errors that the system reports carry its number; the others are raised before the system is asked.
-/

namespace SnapshotSuite

namespace AccessError

/-- The words for an error. -/
def words : AccessError → String
  | .notFound => "No such file or directory"
  | .denied => "Permission denied"
  | .notDirectory => "Not a directory"
  | .isDirectory => "Is a directory"
  | .nameTooLong => "File name too long"
  | .nulInPath => "file name contained an unexpected NUL byte"
  | .nulInWord => "nul byte found in provided data"
  | .notText => "stream did not contain valid UTF-8"
  | .notProgram => "Exec format error"

/-- The system's number for an error, if the system reports it. -/
def code? : AccessError → Option Nat
  | .notFound => some 2
  | .denied => some 13
  | .notDirectory => some 20
  | .isDirectory => some 21
  | .nameTooLong => some 36
  | .notProgram => some 8
  | .nulInPath | .nulInWord | .notText => none

/-- The class of an error. -/
def kind : AccessError → String
  | .notFound => "NotFound"
  | .denied => "PermissionDenied"
  | .notDirectory => "NotADirectory"
  | .isDirectory => "IsADirectory"
  | .nameTooLong => "InvalidFilename"
  | .nulInPath | .nulInWord => "InvalidInput"
  | .notText => "InvalidData"
  | .notProgram => "Uncategorized"

/-- The message for an error. -/
def message (error : AccessError) : String :=
  match error.code? with
  | some code => error.words ++ " (os error " ++ toString code ++ ")"
  | none => error.words

/-- The error with its parts named. -/
def details (error : AccessError) : String :=
  let parts := [("kind", error.kind), ("message", quoted error.words)]
  match error.code? with
  | some code => labelled "Os" (("code", toString code) :: parts)
  | none => labelled "Error" parts

end AccessError

end SnapshotSuite
