import SnapshotSuite.CommandLine.Execution
import SnapshotSuite.Proofs.Compiler.Frame
import SnapshotSuite.Proofs.Fixture.Discovery

/-!
# As far as running

A command begins with the settings, and a run needs its fixtures and its plugin before the first
program is called. Without one of these it ends in an error. With all of them it is what the suite of
the settings makes of the selected fixtures.
-/

namespace SnapshotSuite

namespace Settings

variable {settings : Settings} {surroundings : Surroundings} {verbose : Bool}
  {fixtures : Option Path} {mode : Mode} {filter : Option String} {w : Workspace}
  {dirs : List FixtureDir} {plugin : Plugin} {error : SuiteError}

/-! ### A run that is prepared, and one that is not -/

lemma prepare_eq_ok (hdiscover : discover w (settings.root fixtures) = .ok dirs)
    (hplugin : settings.plugin surroundings = .ok plugin) (filter : Option String) :
    settings.prepare surroundings w fixtures filter = .ok (select filter dirs, plugin) := by
  rw [prepare, hdiscover, hplugin]
  rfl

lemma prepare_of_discover_error (h : discover w (settings.root fixtures) = .error error) :
    settings.prepare surroundings w fixtures filter = .error error := by
  rw [prepare, h]
  rfl

lemma prepare_of_plugin_error (hdiscover : discover w (settings.root fixtures) = .ok dirs)
    (hplugin : settings.plugin surroundings = .error error) :
    settings.prepare surroundings w fixtures filter = .error error := by
  rw [prepare, hdiscover, hplugin]
  rfl

/-- A run is prepared if its fixtures and its plugin are found. -/
lemma prepare_eq_ok_iff {prepared : List FixtureDir × Plugin} :
    settings.prepare surroundings w fixtures filter = .ok prepared ↔
      ∃ dirs, discover w (settings.root fixtures) = .ok dirs ∧
        settings.plugin surroundings = .ok prepared.2 ∧ select filter dirs = prepared.1 := by
  cases hdiscover : discover w (settings.root fixtures) with
  | error error => simp [prepare_of_discover_error hdiscover]
  | ok dirs =>
    cases hplugin : settings.plugin surroundings with
    | error error => simp [prepare_of_plugin_error hdiscover hplugin]
    | ok plugin => simp [prepare_eq_ok hdiscover hplugin, Prod.ext_iff, and_comm]

/-- The compiler of a run leaves the tree alone if the program of the settings does. -/
lemma leavesTree_suite (hchild : surroundings.child.LeavesTree settings.compiler.program)
    (plugin : Plugin) (mode : Mode) :
    (settings.suite surroundings plugin mode).compiler.LeavesTree :=
  Command.leavesTree_compiler hchild surroundings.configPath

/-- Without fixtures or without a plugin there is no run. -/
lemma run_of_prepare_error (h : settings.prepare surroundings w fixtures filter = .error error) :
    settings.run surroundings verbose fixtures mode filter w =
      ⟨"", [.started "run" verbose], .error error, w⟩ := by
  unfold run
  rw [h]

/-- A run prints the report of its outcomes, ends as they tell it to and leaves what its suite
leaves. -/
lemma run_of_prepare_ok (verbose : Bool) (mode : Mode)
    (h : settings.prepare surroundings w fixtures filter = .ok (dirs, plugin)) :
    let ran := (settings.suite surroundings plugin mode).run dirs (w, ())
    let completion := settings.run surroundings verbose fixtures mode filter w
    completion.output = report mode surroundings.elapsed ran.1 ∧
      completion.result = verdict ran.1 ∧ completion.workspace = ran.2.1 := by
  intro ran completion
  have hcompletion : completion = settings.run surroundings verbose fixtures mode filter w := rfl
  rw [run, h] at hcompletion
  rw [hcompletion]
  exact ⟨rfl, rfl, rfl⟩

end Settings

namespace Request

variable {request : Request} {surroundings : Surroundings} {settings : Settings} {w : Workspace}

lemma execute_of_load_error {error : SettingsError}
    (h : Settings.load w surroundings.userDirs request.settingsFile = .error error) :
    request.execute surroundings w = ⟨"", [], .error (.settings error), w⟩ := by
  unfold execute
  rw [h]

lemma execute_of_load_ok
    (h : Settings.load w surroundings.userDirs request.settingsFile = .ok settings) :
    request.execute surroundings w = request.perform surroundings settings w := by
  unfold execute
  rw [h]

lemma perform_run {fixtures : Option Path} {update : Bool} {filter : Option String}
    (h : request.action = .run fixtures update filter) :
    request.perform surroundings settings w =
      settings.run surroundings request.verbose fixtures (surroundings.mode update) filter w := by
  unfold perform
  rw [h]

end Request

/-- Surroundings in which every program succeeds and changes nothing. -/
def Surroundings.sample : Surroundings where
  directory := Utf8.bytesOf "/work"
  environment _ := none
  child := Child.leaving ⟨.code 0, Utf8.bytesOf "a", []⟩
  configPath := "/tmp/settings.json"
  elapsed := "0.00"

lemma Surroundings.leavesTree_sample (program : String) :
    Surroundings.sample.child.LeavesTree program :=
  Child.leavesTree_leaving _ program

/-- Where no file holds settings, they are the defaults. -/
lemma Settings.load_sample :
    Settings.load .sample Surroundings.sample.userDirs none = .ok default := by
  decide +kernel

end SnapshotSuite
