/-!
# Modes of a run
-/

namespace SnapshotSuite

/-- Whether a run compares with snapshots or records them. -/
inductive Mode where
  /-- Compare the output with the stored snapshot. -/
  | assert
  /-- Store the output as the new snapshot. -/
  | record
deriving DecidableEq, Repr

namespace Mode

instance : Inhabited Mode := ⟨.assert⟩

/-- The mode that a setting of the environment asks for: recording only if it is exactly `true`. -/
def ofSetting : Option String → Mode
  | some value => if value = "true" then .record else .assert
  | none => .assert

/-- The word for a mode. -/
def name : Mode → String
  | .assert => "assert"
  | .record => "record"

end Mode

end SnapshotSuite
