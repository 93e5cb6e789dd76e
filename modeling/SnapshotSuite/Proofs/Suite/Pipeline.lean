import SnapshotSuite.Proofs.Fixture.Faults
import SnapshotSuite.Proofs.Suite.Calls

/-!
# One call for each fixture, and the first failure counts

`Suite.Ends` says how a fixture ends whose turn has come: loading it decides first, then the answer
of the compiler, then the snapshot. A run gives every fixture of any list the one outcome that its
turn leads to, and the compiler gets one call for each fixture that can be loaded and no other,
whatever it answers and whatever has been recorded in between.
-/

namespace SnapshotSuite

open Workspace

/-- Whether a mode can lead to a result. Only comparing finds a match, misses a snapshot or finds
another one, and only recording records. -/
def Mode.Allows : Mode → Except FixtureError Reconciled → Prop
  | .assert, .ok .recorded => False
  | .record, .ok .matched => False
  | .record, .error (.missingSnapshot _) => False
  | .record, .error (.mismatch ..) => False
  | _, _ => True

variable {w v : Workspace} {dir : FixtureDir} {mode : Mode} {path : Path} {produced : String}
  {result : Except FixtureError Reconciled} {error : FixtureError}

lemma Reconciles.allows (h : Reconciles w path produced mode result) : mode.Allows result := by
  cases h <;> trivial

lemma Fixture.allows_of_readOptional (h : readOptional w path = .error error) :
    mode.Allows (.error error) := by
  unfold readOptional at h
  split_ifs at h
  split at h
  · cases h
    cases mode <;> trivial
  · split at h
    · cases h
      cases mode <;> trivial
    · cases h

lemma Fixture.allows_of_inputName (h : inputName w path = .error error) :
    mode.Allows (.error error) := by
  unfold inputName at h
  split at h
  · cases h
    cases mode <;> trivial
  · split at h <;> cases h <;> cases mode <;> trivial

/-- What keeps a fixture from being loaded says nothing about a snapshot. -/
lemma Fixture.allows_of_load (h : load w dir = .error error) : mode.Allows (.error error) := by
  obtain ⟨cause, hload, hcause⟩ | ⟨fixture, hload, -⟩ := load_cases w dir
  · cases hload.symm.trans h
    rcases hcause with hinput | hhost | hpayload
    · exact allows_of_inputName hinput
    · exact allows_of_readOptional hhost
    · exact allows_of_readOptional hpayload
  · cases hload.symm.trans h

namespace Suite

variable {σ : Type} {suite : Suite σ} {outcome : Outcome} {state : Workspace × σ}

/-- How a fixture ends whose turn comes in some state. -/
inductive Ends (suite : Suite σ) (dir : FixtureDir) (state : Workspace × σ) : Outcome → Prop where
  /-- It cannot be loaded, and nothing is asked of the compiler. -/
  | unloadable {error : FixtureError} (hload : Fixture.load state.1 dir = .error error) :
    Ends suite dir state ⟨dir.name, none, .error error⟩
  /-- The compiler gives no text. -/
  | refused {fixture : Fixture} {failure : CompilerFailure}
    (hload : Fixture.load state.1 dir = .ok fixture)
    (hanswer : (suite.compiler (suite.call fixture).input (suite.call fixture).configuration
      state).1 = .error failure) :
    Ends suite dir state ⟨dir.name, some (suite.call fixture), .error (.compiler failure)⟩
  /-- The text of the compiler is reconciled with the snapshot. -/
  | reconciled {fixture : Fixture} {text : String} {result : Except FixtureError Reconciled}
    (hload : Fixture.load state.1 dir = .ok fixture)
    (hanswer : (suite.compiler (suite.call fixture).input (suite.call fixture).configuration
      state).1 = .ok text)
    (hresult : Reconciles state.1 dir.snapshotPath text suite.mode result) :
    Ends suite dir state ⟨dir.name, some (suite.call fixture), result⟩

/-- A fixture ends in one of these ways. -/
lemma ends_runFixture (hcompiler : suite.compiler.LeavesTree) (dir : FixtureDir)
    (state : Workspace × σ) : suite.Ends dir state (suite.runFixture dir state).1 := by
  obtain ⟨w, memory⟩ := state
  cases hload : Fixture.load w dir with
  | error error =>
    rw [runFixture_of_load_error hload]
    exact .unloadable hload
  | ok fixture =>
    cases hanswer : (suite.compiler (suite.call fixture).input (suite.call fixture).configuration
        (w, memory)).1 with
    | error failure =>
      rw [(runFixture_of_failure hcompiler hload hanswer).1]
      exact .refused hload hanswer
    | ok text =>
      rw [(runFixture_of_answer hcompiler hload hanswer).1]
      exact .reconciled hload hanswer (reconciles_iff.mpr rfl)

/-- Of these ways only one is open to a fixture. -/
lemma Ends.eq {other : Outcome} (h : suite.Ends dir state outcome)
    (hother : suite.Ends dir state other) : outcome = other := by
  cases h with
  | unloadable hload =>
    cases hother with
    | unloadable hload' => cases hload.symm.trans hload'; rfl
    | refused hload' => cases hload.symm.trans hload'
    | reconciled hload' => cases hload.symm.trans hload'
  | refused hload hanswer =>
    cases hother with
    | unloadable hload' => cases hload.symm.trans hload'
    | refused hload' hanswer' =>
      cases hload.symm.trans hload'
      cases hanswer.symm.trans hanswer'
      rfl
    | reconciled hload' hanswer' =>
      cases hload.symm.trans hload'
      cases hanswer.symm.trans hanswer'
  | reconciled hload hanswer hresult =>
    cases hother with
    | unloadable hload' => cases hload.symm.trans hload'
    | refused hload' hanswer' =>
      cases hload.symm.trans hload'
      cases hanswer.symm.trans hanswer'
    | reconciled hload' hanswer' hresult' =>
      cases hload.symm.trans hload'
      cases hanswer.symm.trans hanswer'
      rw [← reconciles_iff.mp hresult, ← reconciles_iff.mp hresult']

theorem ends_iff (hcompiler : suite.compiler.LeavesTree) :
    suite.Ends dir state outcome ↔ (suite.runFixture dir state).1 = outcome := by
  constructor
  · exact (ends_runFixture hcompiler dir state).eq
  · rintro rfl
    exact ends_runFixture hcompiler dir state

lemma Ends.allows (h : suite.Ends dir state outcome) : suite.mode.Allows outcome.result := by
  cases h with
  | unloadable hload => exact Fixture.allows_of_load hload
  | refused => cases suite.mode <;> trivial
  | reconciled _ _ hresult => exact hresult.allows

/-- The compiler is asked exactly if the fixture can be loaded, and then for that fixture. -/
lemma Ends.call (h : suite.Ends dir state outcome) :
    outcome.call = (Fixture.load state.1 dir).toOption.map suite.call := by
  cases h with
  | unloadable hload => rw [hload]; rfl
  | refused hload => rw [hload]; rfl
  | reconciled hload => rw [hload]; rfl

/-! ### Whole runs -/

/-- Every outcome of a run has a result that the mode allows. -/
lemma allows_of_mem_run (hcompiler : suite.compiler.LeavesTree) (dirs : List FixtureDir)
    (state : Workspace × σ) :
    ∀ outcome ∈ (suite.run dirs state).1, suite.mode.Allows outcome.result := by
  induction dirs generalizing state with
  | nil => simp [run_nil]
  | cons dir dirs ih =>
    rw [run_cons]
    exact List.forall_mem_cons.mpr ⟨(ends_runFixture hcompiler dir state).allows, ih _⟩

/-- What has been recorded in a run makes no difference to which fixtures can be loaded, nor to what
is loaded. -/
lemma Follows.load (h : suite.Follows w v) (hnamed : w.tree.WellNamed) (dir : FixtureDir) :
    (Fixture.load v dir).toOption = (Fixture.load w dir).toOption := by
  by_cases hdir : w.isDirectory dir.path = true
  · rw [Fixture.load_eq h.agreesOff hnamed h.wellNamed hdir]
  · have hnone : ∀ u : Workspace, u.isDirectory dir.path ≠ true →
        (Fixture.load u dir).toOption = none := by
      intro u hu
      cases hload : Fixture.load u dir with
      | error error => rfl
      | ok fixture => exact absurd (Fixture.isDirectory_of_load hload) hu
    rw [hnone w hdir, hnone v (by rwa [h.agreesOff.isDirectory_eq])]

/-- The calls of a run are those of its fixtures at the start. -/
lemma Follows.filterMap_call_run (hcompiler : suite.compiler.LeavesTree) (h : suite.Follows w v)
    (hnamed : w.tree.WellNamed) (dirs : List FixtureDir) (memory : σ) :
    (suite.run dirs (v, memory)).1.filterMap Outcome.call =
      dirs.filterMap fun dir => (Fixture.load w dir).toOption.map suite.call := by
  induction dirs generalizing v memory with
  | nil => rfl
  | cons dir dirs ih =>
    have hcall := (ends_runFixture hcompiler dir (v, memory)).call
    rw [h.load hnamed] at hcall
    rw [run_cons, List.filterMap_cons, List.filterMap_cons, hcall,
      ih (h.runFixture hcompiler dir memory)]

/-- In a run over any fixtures, with any compiler that leaves the tree alone, there is one outcome
for each fixture, in order and with its name. The compiler gets one call for each fixture that can
be loaded and no other, in order: the path of its input, and the configuration for its extension
and the two documents of its directory. A fixture can be loaded exactly if it is what stands in its
directory: the only input there and the documents in the two files. The outcome of a fixture is the one end that is open to it
in the state that the fixtures before it have left, and they make no difference to what is loaded.
No outcome is one of the other mode. -/
theorem run_pipeline (hcompiler : suite.compiler.LeavesTree) (hnamed : w.tree.WellNamed)
    (dirs : List FixtureDir) (memory : σ) :
    let outcomes := (suite.run dirs (w, memory)).1
    outcomes.map Outcome.name = dirs.map FixtureDir.name ∧
      (suite.calls dirs (w, memory) =
        dirs.filterMap fun dir => (Fixture.load w dir).toOption.map fun fixture =>
          ⟨fixture.inputPath,
            suite.plugin.configure fixture.extension fixture.host fixture.payload⟩) ∧
      (∀ dir fixture, Fixture.load w dir = .ok fixture ↔ fixture.StandsIn w dir) ∧
      (∀ (i : Nat) dir, dirs[i]? = some dir →
        let state := (suite.run (dirs.take i) (w, memory)).2
        (Fixture.load state.1 dir).toOption = (Fixture.load w dir).toOption ∧
          ∀ outcome, outcomes[i]? = some outcome ↔ suite.Ends dir state outcome) ∧
      ∀ outcome ∈ outcomes, suite.mode.Allows outcome.result := by
  intro outcomes
  have hstart := Follows.refl suite hnamed
  refine ⟨map_name_run dirs _, ?_, fun dir fixture => Fixture.load_eq_ok_iff_standsIn,
    fun i dir hi => ⟨?_, fun outcome => ?_⟩, allows_of_mem_run hcompiler dirs _⟩
  · rw [calls_eq_filterMap, hstart.filterMap_call_run hcompiler hnamed]
    rfl
  · exact (hstart.run hcompiler (dirs.take i) memory).load hnamed dir
  · rw [ends_iff hcompiler, getElem?_run hi, Option.some.injEq]

/-- A compiler that gives the path of the input as often as it remembers, and fails after that. -/
def limited : Suite Nat where
  plugin := ⟨"plugin.wasm"⟩
  compiler := fun input _ (w, left) =>
    match left with
    | 0 => (.error (.failed "swc" "exit status: 1" ""), w, 0)
    | left + 1 => (.ok input, w, left)
  mode := .record

lemma leavesTree_limited : limited.compiler.LeavesTree := by
  intro input configuration w left
  cases left <;> rfl

/-- Some overrides. -/
def overrides : Document :=
  .object [("minify", .bool true)]

/-- A tree with one fixture, whose overrides are these and whose payload is a text. -/
def configured : Workspace where
  tree := ⟨[(["a"], .directory), (["input.ts", "a"], .file []),
    ([".swcrc", "a"], .file (Utf8.bytesOf overrides.pretty)),
    (["config.json", "a"], .file (Utf8.bytesOf (Document.string "React").pretty))], []⟩
  cwd := []

lemma standsIn_configured :
    Fixture.StandsIn configured ⟨"a", "a"⟩
      ⟨⟨"a", "a"⟩, "a/input.ts", ".ts", some overrides, some (.string "React")⟩ := by
  have hintegral : overrides.Integral := .object (by simp [Document.Integral.bool])
  have hunique : overrides.UniqueKeys := by
    rw [overrides, Document.uniqueKeys_object_iff]
    simp [Fields.Unique, Fields.keys, Document.UniqueKeys.bool]
  refine ⟨rfl, ⟨"input.ts", ⟨by decide +kernel, Fixture.inputs_eq_singleton (by decide +kernel)⟩,
    by decide +kernel, .inr ⟨"ts", by decide, by decide, by decide⟩⟩, ?_, ?_⟩
  · exact .present rfl (Document.read_pretty hintegral hunique (by decide))
  · exact .present rfl (Document.read_pretty (.string _) (.string _) (by decide))

/-- Four fixtures with a compiler that gives one text: the first is recorded, the next one gets no
text, the third has no input, and the fourth is the first again. A fixture with both documents makes
a call whose configuration has them. -/
theorem run_pipeline_limited :
    let dirs : List FixtureDir :=
      [⟨"a", "suite/a"⟩, ⟨"c", "suite/c"⟩, ⟨"b", "suite/b"⟩, ⟨"a", "suite/a"⟩]
    let outcomes := (limited.run dirs (.sample, 1)).1
    limited.compiler.LeavesTree ∧ Workspace.sample.tree.WellNamed ∧
      outcomes.map Outcome.name = ["a", "c", "b", "a"] ∧
      (limited.calls dirs (.sample, 1)).map Call.input =
        ["suite/a/input.js", "suite/c/input.tsx", "suite/a/input.js"] ∧
      outcomes[0]?.map Outcome.result = some (.ok .recorded) ∧
      outcomes[1]?.map Outcome.result =
        some (.error (.compiler (.failed "swc" "exit status: 1" ""))) ∧
      ∃ configuration,
        limited.calls [⟨"a", "a"⟩] (configured, 1) = [⟨"a/input.ts", configuration⟩] ∧
        configuration.document.at? ["minify"] = some (.bool true) ∧
        configuration.parser? = some "typescript" ∧
        configuration.plugins = [("plugin.wasm", .string "React")] := by
  intro dirs outcomes
  obtain ⟨hnames, hcalls, -, hends, -⟩ :=
    run_pipeline leavesTree_limited wellNamed_sample dirs 1
  refine ⟨leavesTree_limited, wellNamed_sample, hnames, ?_, ?_, ?_, ?_⟩
  · rw [hcalls]
    simp [dirs, load_sample, Fixture.load_sample_error, Fixture.load_sample_markup,
      Except.toOption]
  · have hrecorded : Reconciles .sample "suite/a/output.js" "suite/a/input.js" .record
        (.ok .recorded) := reconciles_iff.mpr (by decide +kernel)
    rw [((hends 0 _ rfl).2 _).mpr (.reconciled load_sample rfl hrecorded)]
    rfl
  · obtain ⟨hload, hend⟩ := hends 1 ⟨"c", "suite/c"⟩ rfl
    have hleft : (limited.run (dirs.take 1) (.sample, 1)).2.2 = 0 := by
      simp only [dirs, List.take_succ_cons, List.take_zero, run_cons, run_nil, runFixture,
        load_sample]
      rfl
    revert hload hend
    generalize (limited.run (dirs.take 1) (.sample, 1)).2 = state at hleft ⊢
    obtain ⟨v, left⟩ := state
    subst hleft
    rw [Fixture.load_sample_markup]
    intro hload hend
    cases hload' : Fixture.load v ⟨"c", "suite/c"⟩ with
    | error error => simp [hload', Except.toOption] at hload
    | ok fixture =>
      rw [(hend _).mpr (.refused hload' rfl)]
      rfl
  · obtain ⟨-, hcall, hloads, -, -⟩ :=
      run_pipeline leavesTree_limited (w := configured) (by decide) [⟨"a", "a"⟩] 1
    have hload := (hloads _ _).mpr standsIn_configured
    refine ⟨limited.plugin.configure ".ts" (some overrides) (some (.string "React")), ?_, rfl, rfl,
      rfl⟩
    rw [hcall, List.filterMap_cons, hload]
    rfl

end Suite

end SnapshotSuite
