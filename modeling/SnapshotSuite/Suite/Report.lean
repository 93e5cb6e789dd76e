import SnapshotSuite.Snapshot.Difference
import SnapshotSuite.Suite.Execution
/-!
# Reports of a run

A report has a line for every outcome, then for every snapshot that does not match a block with
both texts and where they part, and a summary. Every part ends in a line feed.
-/

namespace SnapshotSuite

/-- The entry of an outcome. -/
def Outcome.entry (outcome : Outcome) : String :=
  match outcome.result with
  | .ok .matched => "✅ " ++ outcome.name ++ "\n"
  | .ok .recorded => "📝 " ++ outcome.name ++ " (recorded)\n"
  | .error error => "❌ " ++ outcome.name ++ ": " ++ error.message ++ "\n"

/-- The last line of the block for two texts: where they part, if they do. -/
def differenceLine (expected actual : String) : String :=
  match Difference.find? expected actual with
  | some difference => difference.message ++ "\n"
  | none => ""

/-- The block for a snapshot that does not match. -/
def mismatchBlock (name : String) (path : Path) (expected actual : String) : String :=
  "\n---- " ++ name ++ " ----\n--- expected (" ++ path ++ ")\n" ++ expected ++
    "\n+++ actual\n" ++ actual ++ "\n" ++ differenceLine expected actual

/-- The block of an outcome, if its snapshot does not match. -/
def Outcome.block? (outcome : Outcome) : Option String :=
  match outcome.result with
  | .error (.mismatch path expected actual) =>
    some (mismatchBlock outcome.name path expected actual)
  | _ => none

/-- The last line of a report; `elapsed` is the time that the run took, in seconds. -/
def summaryLine (mode : Mode) (elapsed : String) (outcomes : List Outcome) : String :=
  "📊 Fixtures: " ++ toString (passedCount outcomes) ++ " passed, " ++
    toString (failedCount outcomes) ++ " failed (" ++ mode.name ++ " mode) in " ++ elapsed ++ "s\n"

/-- The report of a run. -/
def report (mode : Mode) (elapsed : String) (outcomes : List Outcome) : String :=
  String.join (outcomes.map Outcome.entry) ++ String.join (outcomes.filterMap Outcome.block?) ++
    summaryLine mode elapsed outcomes

end SnapshotSuite
