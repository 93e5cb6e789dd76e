import SnapshotSuite.CommandLine.Answer
import SnapshotSuite.Proofs.CommandLine.Discovery
import SnapshotSuite.Proofs.CommandLine.Running
import SnapshotSuite.Proofs.Fixture.Faults
import SnapshotSuite.Proofs.Suite.Isolation
import SnapshotSuite.Proofs.Suite.Report

/-!
# What a run prints, and how it ends

A run that has its fixtures and its plugin runs the fixtures that are listed for the same directory
and whose name holds the filter. Its report accounts for each of them once, and the numbers of the
report decide how the command ends.
-/

namespace SnapshotSuite

namespace Settings

variable {settings : Settings} {surroundings : Surroundings} {fixtures : Option Path}
  {w : Workspace} {dirs : List FixtureDir}

lemma list_of_discover_ok (h : discover w (settings.root fixtures) = .ok dirs) :
    settings.list fixtures w =
      ⟨String.join (dirs.map fun dir => dir.name ++ "\n"), [], .ok (), w⟩ := by
  unfold list
  rw [h]

end Settings

lemma Completion.output_answer (completion : Completion) (request : Request) :
    (completion.answer request).output = completion.output := by
  unfold answer
  cases completion.result <;> rfl

lemma Completion.exitCode_answer (completion : Completion) (request : Request) :
    (completion.answer request).exitCode = if completion.result = .ok () then 0 else 1 := by
  unfold answer
  cases completion.result <;> simp

namespace Request

variable {surroundings : Surroundings} {settings : Settings} {w : Workspace}
  {fixtures : Option Path} {update : Bool} {filter : Option String} {dirs : List FixtureDir}
  {plugin : Plugin}

/-- A run that gets as far as running has one outcome for each fixture that is listed for the same
directory and whose name holds the filter, in that order. It prints one entry for each outcome, one
block for each mismatch with both texts and the first line at which they part, and the numbers of
those that are fine and of those that are errors, which sum to the number of fixtures. It succeeds
exactly if there is no error, and otherwise ends in an error that carries their number. -/
theorem execute_accounts (request : Request)
    (hload : Settings.load w surroundings.userDirs request.settingsFile = .ok settings)
    (haction : request.action = .run fixtures update filter)
    (hdiscover : discover w (settings.root fixtures) = .ok dirs)
    (hplugin : settings.plugin surroundings = .ok plugin) :
    let mode := surroundings.mode update
    let listing : Request := { request with action := .list fixtures }
    let chosen := dirs.filter fun dir => ∀ pattern ∈ filter, pattern.toList <:+: dir.name.toList
    let outcomes := ((settings.suite surroundings plugin mode).run chosen (w, ())).1
    let completion := request.execute surroundings w
    listing.execute surroundings w =
        ⟨String.join (dirs.map fun dir => dir.name ++ "\n"), [], .ok (), w⟩ ∧
      outcomes.map Outcome.name = (dirs.map FixtureDir.name).filter (fun name =>
        ∀ pattern ∈ filter, pattern.toList <:+: name.toList) ∧
      ∃ entries blocks passed failed, IsAccount outcomes entries blocks passed failed ∧
        passed + failed = chosen.length ∧
        passed ≤ outcomes.length ∧ failed = outcomes.length - passed ∧
        completion.output = String.join entries ++ String.join blocks ++
          ("📊 Fixtures: " ++ toString passed ++ " passed, " ++ toString failed ++ " failed (" ++
            mode.name ++ " mode) in " ++ surroundings.elapsed ++ "s\n") ∧
        (completion.result = .ok () ↔ ∀ outcome ∈ outcomes, outcome.result.isOk = true) ∧
        (completion.result = if failed = 0 then .ok () else .error (.fixturesFailed failed)) ∧
        (completion.answer request).output = completion.output ∧
        (completion.answer request).exitCode = if failed = 0 then 0 else 1 := by
  intro mode listing chosen outcomes completion
  have hprepare : settings.prepare surroundings w fixtures filter = .ok (chosen, plugin) := by
    rw [Settings.prepare_eq_ok hdiscover hplugin, select_eq_filter_occurs]
  have hcompletion : completion =
      settings.run surroundings request.verbose fixtures mode filter w :=
    (execute_of_load_ok hload).trans (perform_run haction)
  obtain ⟨houtput, hresult, -⟩ := Settings.run_of_prepare_ok request.verbose mode hprepare
  have hnames : outcomes.map Outcome.name = chosen.map FixtureDir.name := Suite.map_name_run _ _
  have haccount := isAccount_report outcomes
  have hlength : outcomes.length = chosen.length := by
    simpa using congrArg List.length hnames
  have hsum := haccount.passed_add_failed
  have hended : completion.result = if failedCount outcomes = 0 then .ok ()
      else .error (.fixturesFailed (failedCount outcomes)) := by
    rw [hcompletion, hresult]
    rfl
  refine ⟨?_, ?_, _, _, _, _, haccount, hsum.trans hlength, by omega, by omega, ?_, ?_, hended,
    completion.output_answer request, ?_⟩
  · have hlisted : Settings.load w surroundings.userDirs listing.settingsFile = .ok settings :=
      hload
    exact (execute_of_load_ok hlisted).trans (Settings.list_of_discover_ok hdiscover)
  · rw [hnames, List.filter_map]
    rfl
  · rw [hcompletion, houtput]
    rfl
  · rw [hended, ← haccount.failed_eq_zero_iff]
    by_cases hzero : failedCount outcomes = 0 <;> simp [hzero]
  · rw [completion.exitCode_answer request, hended]
    by_cases hzero : failedCount outcomes = 0 <;> simp [hzero]

end Request

/-- A tree with four fixtures below `suite`: the first has another snapshot than `a`, the second has
no input, the third has this snapshot, and the fourth is empty and called differently. -/
def Workspace.stale : Workspace where
  tree := ⟨[(["suite"], .directory), (["a1", "suite"], .directory),
    (["input.js", "a1", "suite"], .file []),
    (["output.js", "a1", "suite"], .file (Utf8.bytesOf "b")), (["a2", "suite"], .directory),
    (["a3", "suite"], .directory), (["input.js", "a3", "suite"], .file []),
    (["output.js", "a3", "suite"], .file (Utf8.bytesOf "a")), (["b", "suite"], .directory)], []⟩
  cwd := []

lemma discover_stale :
    discover .stale "suite" = .ok
      [⟨"a1", "suite/a1"⟩, ⟨"a2", "suite/a2"⟩, ⟨"a3", "suite/a3"⟩, ⟨"b", "suite/b"⟩] :=
  discover_eq_ok_iff.mpr (discover?_eq_some_of_sorted ["a1", "a2", "a3", "b"] (by decide +kernel)
    (by decide +kernel) (by decide))

/-- A directory with an input and without documents is a fixture whose snapshot is compared with
`a`. -/
lemma exists_runFixture_stale (plugin : Plugin) (dir : FixtureDir)
    (hdir : Workspace.stale.isDirectory dir.path = true)
    (hinputs : Fixture.inputs .stale dir.path = {"input.js"})
    (hhost : Workspace.stale.isFile (Path.join dir.path ".swcrc") = false)
    (hpayload : Workspace.stale.isFile (Path.join dir.path "config.json") = false) :
    ∃ call, (((default : Settings).suite .sample plugin .assert).runFixture dir (.stale, ())).1 =
      ⟨dir.name, some call, (reconcile .assert .stale dir.snapshotPath "a").1⟩ := by
  have hcompiler : ((default : Settings).suite .sample plugin .assert).compiler.LeavesTree :=
    Settings.leavesTree_suite (Surroundings.leavesTree_sample _) plugin .assert
  have hextension : Fixture.HasExtension "input.js" ".js" :=
    .inr ⟨"js", by decide, by decide, by decide⟩
  have hload : Fixture.load .stale dir =
      .ok ⟨dir, Path.join dir.path "input.js", ".js", none, none⟩ :=
    Fixture.load_eq_ok_iff_standsIn.mpr ⟨rfl, ⟨"input.js", ⟨hdir, hinputs⟩, rfl, hextension⟩,
      .absent hhost, .absent hpayload⟩
  have haccepted : Command.accept (default : Settings).compiler.program
      ⟨.code 0, Utf8.bytesOf "a", []⟩ = .ok "a" := by
    decide +kernel
  exact ⟨_, (Suite.runFixture_of_answer hcompiler hload haccepted).1⟩

/-- What becomes of the fixtures whose name holds an `a`. -/
lemma exists_run_stale (plugin : Plugin) :
    ∃ call call', (((default : Settings).suite .sample plugin .assert).run
        [⟨"a1", "suite/a1"⟩, ⟨"a2", "suite/a2"⟩, ⟨"a3", "suite/a3"⟩] (.stale, ())).1 =
      [⟨"a1", some call, .error (.mismatch "suite/a1/output.js" "b" "a")⟩,
        ⟨"a2", none, .error (.missingInput "suite/a2")⟩, ⟨"a3", some call', .ok .matched⟩] := by
  have hcompiler : ((default : Settings).suite .sample plugin .assert).compiler.LeavesTree :=
    Settings.leavesTree_suite (Surroundings.leavesTree_sample _) plugin .assert
  obtain ⟨call, hfirst⟩ := exists_runFixture_stale plugin ⟨"a1", "suite/a1"⟩
    (by decide +kernel) (Fixture.inputs_eq_singleton (by decide +kernel)) (by decide +kernel)
    (by decide +kernel)
  obtain ⟨call', hthird⟩ := exists_runFixture_stale plugin ⟨"a3", "suite/a3"⟩
    (by decide +kernel) (Fixture.inputs_eq_singleton (by decide +kernel)) (by decide +kernel)
    (by decide +kernel)
  have hsecond : Fixture.load .stale ⟨"a2", "suite/a2"⟩ = .error (.missingInput "suite/a2") := by
    rw [Fixture.load_eq_error_iff (.missingInput _)]
    exact (Fixture.inputName_eq_missing_iff (by decide +kernel)).mpr
      ⟨rfl, Fixture.inputs_eq_empty (by decide +kernel)⟩
  have hmismatch : (reconcile .assert .stale "suite/a1/output.js" "a").1 =
      .error (.mismatch "suite/a1/output.js" "b" "a") := by decide +kernel
  have hmatch : (reconcile .assert .stale "suite/a3/output.js" "a").1 = .ok .matched := by
    decide +kernel
  refine ⟨call, call', ?_⟩
  rw [Suite.run_assert_outcomes hcompiler rfl, List.map_cons, List.map_cons, List.map_cons,
    List.map_nil, hfirst, hthird, Suite.runFixture_of_load_error hsecond, ← hmismatch, ← hmatch]
  rfl

/-- A run over the fixtures whose name holds an `a`: two of them fail, one because its snapshot does
not match, and only for that one a block shows both texts and where they part. -/
theorem Request.execute_accounts_sample :
    let request : Request := ⟨false, false, none, .run (some "suite") false (some "a")⟩
    let completion := request.execute .sample .stale
    Settings.load .stale Surroundings.sample.userDirs none = .ok default ∧
      discover .stale "suite" = .ok
        [⟨"a1", "suite/a1"⟩, ⟨"a2", "suite/a2"⟩, ⟨"a3", "suite/a3"⟩, ⟨"b", "suite/b"⟩] ∧
      (default : Settings).plugin .sample =
        .ok ⟨"/work/swc_plugin_import_jsx_pragma.wasm"⟩ ∧
      completion.output =
        "❌ a1: output does not match snapshot at suite/a1/output.js\n" ++
        "❌ a2: no input file found in suite/a2\n" ++ "✅ a3\n" ++
        "\n---- a1 ----\n--- expected (suite/a1/output.js)\nb\n+++ actual\na\n" ++
        "first difference at line 1:\n  expected: \"b\"\n  actual:   \"a\"\n" ++
        "📊 Fixtures: 1 passed, 2 failed (assert mode) in 0.00s\n" ∧
      completion.result = .error (.fixturesFailed 2) ∧
      (completion.answer request).exitCode = 1 := by
  intro request completion
  have hloaded : Settings.load .stale Surroundings.sample.userDirs none = .ok default := by
    decide +kernel
  have hplugin : (default : Settings).plugin .sample =
      .ok ⟨"/work/swc_plugin_import_jsx_pragma.wasm"⟩ := by
    decide +kernel
  obtain ⟨-, -, entries, blocks, passed, failed, haccount, -, -, -, houtput, -, hresult, -,
      hcode⟩ :=
    Request.execute_accounts request hloaded rfl discover_stale hplugin
  have hchosen : ([⟨"a1", "suite/a1"⟩, ⟨"a2", "suite/a2"⟩, ⟨"a3", "suite/a3"⟩,
      ⟨"b", "suite/b"⟩] : List FixtureDir).filter (fun dir =>
        ∀ pattern ∈ (some "a" : Option String), pattern.toList <:+: dir.name.toList) =
        [⟨"a1", "suite/a1"⟩, ⟨"a2", "suite/a2"⟩, ⟨"a3", "suite/a3"⟩] := by
    decide +kernel
  obtain ⟨call, call', hrun⟩ := exists_run_stale ⟨"/work/swc_plugin_import_jsx_pragma.wasm"⟩
  have hmode : Surroundings.sample.mode false = .assert := rfl
  rw [hchosen, hmode, hrun] at haccount
  obtain ⟨hentries, hblocks, hpassed, hfailed⟩ := haccount
  obtain rfl : passed = 1 := hpassed
  obtain rfl : failed = 2 := hfailed
  have hmismatches : ([⟨"a1", some call, .error (.mismatch "suite/a1/output.js" "b" "a")⟩,
      ⟨"a2", none, .error (.missingInput "suite/a2")⟩, ⟨"a3", some call', .ok .matched⟩] :
        List Outcome).filter Outcome.IsMismatch =
      [⟨"a1", some call, .error (.mismatch "suite/a1/output.js" "b" "a")⟩] := by
    simp [Outcome.IsMismatch]
  rw [hmismatches] at hblocks
  rcases hentries with - | ⟨⟨⟩, - | ⟨⟨⟩, - | ⟨⟨⟩, ⟨⟩⟩⟩⟩
  rcases hblocks with - | ⟨⟨_, _, _, hending⟩, ⟨⟩⟩
  obtain rfl := Outcome.endsIn_iff.mp hending
  refine ⟨hloaded, discover_stale, hplugin, houtput.trans ?_, hresult.trans rfl, hcode.trans rfl⟩
  decide +kernel

end SnapshotSuite
