import SnapshotSuite.Proofs.CommandLine.Discovery
import SnapshotSuite.Proofs.CommandLine.Running
import SnapshotSuite.Proofs.Suite.Isolation

/-!
# What a command writes

Carrying out a request has two ends. Either it comes to no run, and then it is the same whatever
programs do, because none is called, and the tree stays as it was. Or the settings, the fixtures
and the plugin are there, and the tree becomes what the run makes of it. So a change of the tree is
the change of a run in record mode, which stays within the snapshots of the fixtures that were
selected.
-/

namespace SnapshotSuite

open Workspace

/-- The same surroundings, with programs that do something else. -/
def Surroundings.withChild (surroundings : Surroundings) (child : Child) : Surroundings :=
  { surroundings with child }

/-- Whether a request asks for recording, itself or through the environment. -/
def Request.Records (request : Request) (environment : Environment) : Prop :=
  ∃ fixtures update filter, request.action = .run fixtures update filter ∧
    (update = true ∨ environment "UPDATE" = some "true")

/-- The places of the snapshots of the fixtures that are found below a root and selected. -/
def Settings.snapshots (settings : Settings) (fixtures : Option Path) (filter : Option String)
    (w : Workspace) : Set Location :=
  {place | ∃ dirs, discover w (settings.root fixtures) = .ok dirs ∧ ∃ dir ∈ dirs,
    (∀ pattern ∈ filter, pattern.toList <:+: dir.name.toList) ∧
      w.place (Path.join (Path.join (settings.root fixtures) dir.name) "output.js") = place}

section Discovery

variable {w : Workspace} {root : Path} {dir : FixtureDir} {dirs : List FixtureDir}

lemma snapshotPath_of_mem_discover (hdiscover : discover w root = .ok dirs) (hdir : dir ∈ dirs) :
    dir.snapshotPath = Path.join (Path.join root dir.name) "output.js" := by
  obtain ⟨-, rfl⟩ := discover?_eq_some_iff.mp (discover_eq_ok_iff.mp hdiscover)
  obtain ⟨name, -, rfl⟩ := List.mem_map.mp hdir
  rfl

/-- The places that a run over the selected fixtures may write to. -/
lemma placesOf_select (settings : Settings) {fixtures : Option Path} (filter : Option String)
    (hdiscover : discover w (settings.root fixtures) = .ok dirs) :
    placesOf w (select filter dirs) = settings.snapshots fixtures filter w := by
  ext place
  constructor
  · rintro ⟨dir, hdir, hplace⟩
    obtain ⟨hfound, hfilter⟩ := mem_select_iff.mp hdir
    rw [snapshotPath_of_mem_discover hdiscover hfound] at hplace
    exact ⟨dirs, hdiscover, dir, hfound, hfilter, hplace⟩
  · rintro ⟨found, hfound, dir, hdir, hfilter, hplace⟩
    obtain rfl : dirs = found := Except.ok.inj (hdiscover.symm.trans hfound)
    rw [← snapshotPath_of_mem_discover hdiscover hdir] at hplace
    exact ⟨dir, mem_select_iff.mpr ⟨hdir, hfilter⟩, hplace⟩

end Discovery

lemma Surroundings.mode_eq_record_iff {surroundings : Surroundings} {update : Bool} :
    surroundings.mode update = .record ↔
      update = true ∨ surroundings.environment "UPDATE" = some "true" := by
  cases update with
  | true => simp [mode]
  | false =>
    cases hvalue : surroundings.environment "UPDATE" with
    | none => simp [mode, hvalue, Mode.ofSetting]
    | some value => simp [mode, hvalue, Mode.ofSetting]

namespace Settings

variable {settings : Settings} {surroundings : Surroundings} {verbose : Bool}
  {fixtures : Option Path} {mode : Mode} {filter : Option String} {w : Workspace}
  {dirs : List FixtureDir} {plugin : Plugin} {error : SuiteError}

lemma workspace_list : (settings.list fixtures w).workspace = w := by
  unfold list
  split <;> rfl

lemma workspace_resolve (name : String) :
    (settings.resolve surroundings name fixtures w).workspace = w := by
  unfold resolve
  split <;> rfl

/-! ### What a run changes -/

section Frame

variable (hchild : surroundings.child.LeavesTree settings.compiler.program)

include hchild

/-- A run changes at most the snapshots of the fixtures that it selects. -/
lemma run_agreesOff :
    AgreesOff (settings.snapshots fixtures filter w) w
      (settings.run surroundings verbose fixtures mode filter w).workspace := by
  cases hprepare : settings.prepare surroundings w fixtures filter with
  | error error =>
    rw [run_of_prepare_error hprepare]
    exact AgreesOff.refl _ w
  | ok prepared =>
    obtain ⟨dirs, hdiscover, -, hselected⟩ := prepare_eq_ok_iff.mp hprepare
    rw [(run_of_prepare_ok verbose mode hprepare).2.2,
      ← placesOf_select settings filter hdiscover, hselected]
    exact Suite.run_agreesOff (leavesTree_suite hchild _ _) _ w ()

/-- A run in assert mode changes nothing. -/
lemma workspace_run_assert :
    (settings.run surroundings verbose fixtures .assert filter w).workspace = w := by
  cases hprepare : settings.prepare surroundings w fixtures filter with
  | error error => rw [run_of_prepare_error hprepare]
  | ok prepared =>
    rw [(run_of_prepare_ok verbose .assert hprepare).2.2]
    exact Suite.run_assert (leavesTree_suite hchild _ _) rfl _ w ()

end Frame

end Settings

namespace Request

variable {request : Request} {surroundings : Surroundings} {settings : Settings} {w : Workspace}

/-- A request that does not ask for recording leaves the tree alone. -/
lemma workspace_execute (hchild : ∀ settings,
      Settings.load w surroundings.userDirs request.settingsFile = .ok settings →
        surroundings.child.LeavesTree settings.compiler.program)
    (h : ¬request.Records surroundings.environment) :
    (request.execute surroundings w).workspace = w := by
  cases hload : Settings.load w surroundings.userDirs request.settingsFile with
  | error error => rw [execute_of_load_error hload]
  | ok settings =>
    rw [execute_of_load_ok hload]
    cases haction : request.action with
    | run fixtures update filter =>
      have hmode : surroundings.mode update = .assert := by
        cases hmode : surroundings.mode update with
        | assert => rfl
        | record =>
          exact absurd ⟨_, _, _, haction, Surroundings.mode_eq_record_iff.mp hmode⟩ h
      rw [perform_run haction, hmode]
      exact Settings.workspace_run_assert (hchild settings hload)
    | list fixtures =>
      rw [perform, haction]
      exact Settings.workspace_list
    | resolve name fixtures =>
      rw [perform, haction]
      exact Settings.workspace_resolve name

/-- A command that is no run is carried out alike whatever programs do. -/
lemma execute_withChild
    (h : ∀ fixtures update filter, request.action ≠ .run fixtures update filter) (child : Child) :
    request.execute (surroundings.withChild child) w = request.execute surroundings w := by
  cases haction : request.action with
  | run fixtures update filter => exact absurd haction (h _ _ _)
  | list fixtures =>
    unfold execute perform
    rw [haction]
    rfl
  | resolve name fixtures =>
    unfold execute perform
    rw [haction]
    rfl

/-- Nothing is written unless recording was asked for, by `--update` or by the variable `UPDATE`
with the value `true`, and then nothing but the snapshots of the fixtures below the root whose name
holds the filter. If the settings cannot be loaded, the fixtures are not found or there is no
plugin, the command ends in that error and leaves the tree as it is, whatever programs would do to
it: none is called. None is called either by a command that is no run. -/
theorem execute_writes (request : Request) {surroundings : Surroundings} (w : Workspace)
    (hchild : ∀ settings,
      Settings.load w surroundings.userDirs request.settingsFile = .ok settings →
        surroundings.child.LeavesTree settings.compiler.program) :
    let completion := request.execute surroundings w
    let loaded := Settings.load w surroundings.userDirs request.settingsFile
    let endsIn := fun (events : List Event) (error : SuiteError) => ∀ child,
      request.execute (surroundings.withChild child) w = ⟨"", events, .error error, w⟩
    (¬request.Records surroundings.environment → completion.workspace = w) ∧
      (∀ error, loaded = .error error → endsIn [] (.settings error)) ∧
      (∀ settings fixtures update filter, loaded = .ok settings →
        request.action = .run fixtures update filter →
          AgreesOff (settings.snapshots fixtures filter w) w completion.workspace ∧
          (∀ path, w.place path ∉ settings.snapshots fixtures filter w →
            completion.workspace.node? path = w.node? path) ∧
          (∀ error, discover w (settings.root fixtures) = .error error →
            endsIn [.started "run" request.verbose] error) ∧
          ∀ dirs error, discover w (settings.root fixtures) = .ok dirs →
            settings.plugin surroundings = .error error →
              endsIn [.started "run" request.verbose] error) ∧
      ((∀ fixtures update filter, request.action ≠ .run fixtures update filter) →
        completion.workspace = w ∧
          ∀ child, request.execute (surroundings.withChild child) w = completion) := by
  intro completion loaded endsIn
  refine ⟨workspace_execute hchild, fun error hload child => execute_of_load_error hload,
    fun settings fixtures update filter hload haction => ?_,
    fun hother => ⟨workspace_execute hchild ?_, execute_withChild hother⟩⟩
  · have hrun : ∀ child, request.execute (surroundings.withChild child) w =
        settings.run (surroundings.withChild child) request.verbose fixtures
          (surroundings.mode update) filter w := by
      intro child
      have hload' : Settings.load w (surroundings.withChild child).userDirs request.settingsFile =
          .ok settings := hload
      rw [execute_of_load_ok hload', perform_run haction]
      rfl
    have hagrees : AgreesOff (settings.snapshots fixtures filter w) w completion.workspace := by
      have hcompletion : completion = _ := hrun surroundings.child
      rw [hcompletion]
      exact Settings.run_agreesOff (hchild settings hload)
    refine ⟨hagrees, fun path => hagrees.node?_eq, fun error hdiscover child => ?_,
      fun dirs error hdiscover hplugin child => ?_⟩
    · rw [hrun child]
      exact Settings.run_of_prepare_error (Settings.prepare_of_discover_error hdiscover)
    · rw [hrun child]
      exact Settings.run_of_prepare_error (Settings.prepare_of_plugin_error hdiscover hplugin)
  · rintro ⟨fixtures, update, filter, haction, -⟩
    exact hother _ _ _ haction

/-- Runs over the fixtures below a root whose name holds an `a`. -/
def sample (root : Path) (update : Bool) : Request :=
  ⟨false, false, none, .run (some root) update (some "a")⟩

lemma not_records_sample (root : Path) :
    ¬(sample root false).Records Surroundings.sample.environment := by
  rintro ⟨fixtures, update, filter, haction, hupdate | hvalue⟩
  · cases haction
    cases hupdate
  · cases hvalue

/-- Without `--update` nothing is written, with it the snapshots of the other fixtures stay as they
were, and for a root that is not there no program is called. -/
theorem execute_writes_samples :
    (∀ program, Surroundings.sample.child.LeavesTree program) ∧
      ((sample "suite" false).execute .sample .sample).workspace = .sample ∧
      ((sample "suite" true).execute .sample .sample).workspace.node? "suite/c/output.js" =
        some .directory ∧
      ∀ child, (sample "attic" true).execute (Surroundings.sample.withChild child) .sample =
        ⟨"", [.started "run" false], .error (.rootMissing "attic"), .sample⟩ := by
  have hwrites := fun root update => execute_writes (sample root update) .sample
    fun settings _ => Surroundings.leavesTree_sample settings.compiler.program
  refine ⟨Surroundings.leavesTree_sample, (hwrites "suite" false).1 (not_records_sample "suite"),
    ?_, ?_⟩
  · obtain ⟨-, -, hrun, -⟩ := hwrites "suite" true
    obtain ⟨-, hnode, -⟩ := hrun default (some "suite") true (some "a") Settings.load_sample rfl
    refine (hnode "suite/c/output.js" ?_).trans (by decide +kernel)
    rintro ⟨dirs, hdiscover, dir, hdir, hfilter, hplace⟩
    have hfound : discover .sample "suite" = .ok FixtureDir.samples :=
      discover_eq_ok_iff.mpr discover?_sample
    obtain rfl : FixtureDir.samples = dirs := Except.ok.inj (hfound.symm.trans hdiscover)
    have hother : ∀ dir ∈ FixtureDir.samples, "a".toList <:+: dir.name.toList →
        Workspace.sample.place (Path.join (Path.join "suite" dir.name) "output.js") ≠
          Workspace.sample.place "suite/c/output.js" := by
      decide +kernel
    exact hother dir hdir (hfilter "a" rfl) hplace
  · obtain ⟨-, -, hrun, -⟩ := hwrites "attic" true
    obtain ⟨-, -, hmissing, -⟩ :=
      hrun default (some "attic") true (some "a") Settings.load_sample rfl
    exact hmissing _ (by decide +kernel)

end Request

end SnapshotSuite
