import SnapshotSuite.Compiler.Command
import SnapshotSuite.Compiler.Plugin
import SnapshotSuite.Fixture.Loading
import SnapshotSuite.Snapshot.Reconcile
/-!
# Running a suite

Each fixture is read, configured, compiled and reconciled, in the order given. A fixture that fails
at one of these is an outcome like any other and stops nothing. The compiler is asked once for each
fixture that can be read, and for no other.
-/

namespace SnapshotSuite

/-- What the compiler was asked for. -/
structure Call where
  /-- The path of the input. -/
  input : Path
  /-- The configuration. -/
  configuration : Configuration

/-- What became of a fixture. -/
structure Outcome where
  /-- The name of the fixture. -/
  name : String
  /-- What the compiler was asked for, if it was. -/
  call : Option Call
  /-- What was done, or why the fixture did not pass. -/
  result : Except FixtureError Reconciled

/-- Whether the fixture passed. -/
def Outcome.passed (outcome : Outcome) : Bool :=
  match outcome.result with
  | .ok _ => true
  | .error _ => false

/-- How fixtures are run. -/
structure Suite (σ : Type) where
  /-- The plugin that every configuration runs. -/
  plugin : Plugin
  /-- What compiles the inputs. -/
  compiler : Compiler σ
  /-- Whether snapshots are compared or recorded. -/
  mode : Mode

namespace Suite

variable {σ : Type}

/-- The call that a fixture makes. -/
def call (suite : Suite σ) (fixture : Fixture) : Call where
  input := fixture.inputPath
  configuration := suite.plugin.configure fixture.extension fixture.host fixture.payload

/-- Runs one fixture. -/
def runFixture (suite : Suite σ) (dir : FixtureDir) : StateM (Workspace × σ) Outcome :=
  fun (w, memory) =>
    match Fixture.load w dir with
    | .error error => (⟨dir.name, none, .error error⟩, w, memory)
    | .ok fixture =>
      let call := suite.call fixture
      match suite.compiler call.input call.configuration (w, memory) with
      | (.error failure, w, memory) =>
        (⟨dir.name, some call, .error (.compiler failure)⟩, w, memory)
      | (.ok produced, w, memory) =>
        let (result, w) := reconcile suite.mode w dir.snapshotPath produced
        (⟨dir.name, some call, result⟩, w, memory)

/-- Runs fixtures in order. -/
def run (suite : Suite σ) : List FixtureDir → StateM (Workspace × σ) (List Outcome)
  | [] => pure []
  | dir :: dirs => do
    let outcome ← suite.runFixture dir
    let outcomes ← suite.run dirs
    return outcome :: outcomes

end Suite

/-- The number of fixtures that passed. -/
def passedCount (outcomes : List Outcome) : Nat :=
  outcomes.countP Outcome.passed

/-- The number of fixtures that did not pass. -/
def failedCount (outcomes : List Outcome) : Nat :=
  outcomes.countP fun outcome => !outcome.passed

end SnapshotSuite
