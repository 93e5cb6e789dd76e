import SnapshotSuite.Tree.AccessError
/-!
# Errors of system calls

What can go wrong when a tool uses files: a path that cannot be used, or a call that the system
refuses for another reason.
-/

namespace SnapshotSuite

namespace Toolbox

/-- Why a call of the system fails. -/
inductive SystemError where
  /-- A path cannot be used. -/
  | access (cause : AccessError)
  /-- A descriptor is not open, or not open for this. -/
  | badDescriptor
  /-- Something stands where nothing should. -/
  | exists
  /-- A directory has entries. -/
  | notEmpty
  /-- The call makes no sense for what it names. -/
  | invalid
  /-- The process is not allowed to do this. -/
  | notPermitted
  /-- What is named is in use. -/
  | busy
  /-- Nobody reads what is written. -/
  | brokenPipe
deriving DecidableEq, Repr

namespace SystemError

/-- The words for an error. -/
def words : SystemError → String
  | .access cause => cause.words
  | .badDescriptor => "Bad file descriptor"
  | .exists => "File exists"
  | .notEmpty => "Directory not empty"
  | .invalid => "Invalid argument"
  | .notPermitted => "Operation not permitted"
  | .busy => "Device or resource busy"
  | .brokenPipe => "Broken pipe"

/-- Whether the error says that nothing stands at a path, or that its way there is no directory. -/
def isAbsence : SystemError → Bool
  | .access .notFound | .access .notDirectory => true
  | _ => false

end SystemError

end Toolbox

end SnapshotSuite
