import SnapshotSuite.Fixture.Basic
import SnapshotSuite.Snapshot.Mode
/-!
# Reconciling an output with its snapshot

In assert mode the output has to be the stored snapshot byte for byte, and nothing is written. In
record mode the output becomes the snapshot, whatever stood there.
-/

namespace SnapshotSuite

/-- What was done for an output that passed. -/
inductive Reconciled where
  /-- The output is that of the snapshot. -/
  | matched
  /-- The snapshot was written. -/
  | recorded
deriving DecidableEq, Repr

/-- Compares an output with the snapshot at a path. -/
def compareSnapshot (w : Workspace) (path : Path) (produced : String) :
    Except FixtureError Reconciled :=
  if w.isFile path then
    match w.readBytes path with
    | .error cause => .error (.access path cause)
    | .ok stored =>
      if stored = Utf8.bytesOf produced then .ok .matched
      else .error (.mismatch path (Utf8.lossyText stored) produced)
  else .error (.missingSnapshot path)

/-- Compares or records an output; the second value is the workspace afterwards. -/
def reconcile (mode : Mode) (w : Workspace) (path : Path) (produced : String) :
    Except FixtureError Reconciled × Workspace :=
  match mode with
  | .assert => (compareSnapshot w path produced, w)
  | .record =>
    match w.writeBytes path (Utf8.bytesOf produced) with
    | .ok written => (.ok .recorded, written)
    | .error cause => (.error (.access path cause), w)

end SnapshotSuite
