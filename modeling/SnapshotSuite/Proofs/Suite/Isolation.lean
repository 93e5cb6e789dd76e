import SnapshotSuite.CommandLine.Execution
import SnapshotSuite.Proofs.Suite.Run
import SnapshotSuite.Proofs.Text.Occurrence

/-!
# Fixtures do not disturb each other

What becomes of a fixture in a run, and of its snapshot, is what would have become of it alone. So
the order of the fixtures and the choice of the others make no difference to it.
-/

namespace SnapshotSuite

open Workspace

/-- A filter selects the fixtures whose name holds it, and no filter selects them all. -/
lemma select_eq_filter_occurs (filter : Option String) (dirs : List FixtureDir) :
    select filter dirs =
      dirs.filter fun dir => ∀ pattern ∈ filter, pattern.toList <:+: dir.name.toList := by
  cases filter with
  | none => simp [select]
  | some pattern =>
    refine List.filter_congr fun dir _ => ?_
    rw [Bool.eq_iff_iff, occursIn_iff]
    simp

/-- Selecting by a filter keeps the fixtures that satisfy one condition. -/
lemma select_eq_filter (filter : Option String) :
    ∃ keeps : FixtureDir → Bool, ∀ dirs, select filter dirs = dirs.filter keeps :=
  ⟨_, select_eq_filter_occurs filter⟩

lemma mem_select_iff {filter : Option String} {dirs : List FixtureDir} {dir : FixtureDir} :
    dir ∈ select filter dirs ↔
      dir ∈ dirs ∧ ∀ pattern ∈ filter, pattern.toList <:+: dir.name.toList := by
  rw [select_eq_filter_occurs, List.mem_filter, decide_eq_true_iff]

namespace Suite

variable {σ : Type} {suite : Suite σ} {w : Workspace} {root : Path}
  {dir : FixtureDir} {dirs chosen order : List FixtureDir}
  {answer : Path → Bytes → Configuration → Except CompilerFailure String}

/-- The snapshot of a fixture that a run leaves out stays as it was. -/
lemma node?_run_of_not_mem (hcompiler : suite.compiler.LeavesTree)
    (hroot : w.isDirectory root = true) (hdirs : ∀ dir ∈ dirs, dir.IsBelow w root)
    (hdir : dir.IsBelow w root) (hout : dir ∉ dirs) (memory : σ) :
    (suite.run dirs (w, memory)).2.1.node? dir.snapshotPath = w.node? dir.snapshotPath := by
  refine (suite.run_agreesOff hcompiler dirs w memory).node?_eq ?_
  rintro ⟨other, hother, hplace⟩
  exact hout ((hdirs other hother).eq_of_place_eq hroot hdir hplace ▸ hother)

section Below

variable (hcompiler : suite.compiler.IsFunction answer) (hnamed : w.tree.WellNamed)
  (hdirs : ∀ dir ∈ dirs, dir.IsBelow w root)

include hcompiler hnamed hdirs

/-- Every fixture of a run ends as it would have ended alone. -/
lemma results_eq_map (memory memory' : σ) :
    suite.results dirs (w, memory) =
      dirs.map fun dir => (dir, (suite.runFixture dir (w, memory')).1) := by
  have houtcomes := (Follows.refl suite hnamed).run_outcomes hcompiler hnamed hdirs memory' memory
  rw [results, houtcomes]
  exact List.map_prod_left_eq_zip.symm

variable (hroot : w.isDirectory root = true)

include hroot

/-- A run leaves at the snapshot of a fixture what the fixture would have left there alone. -/
lemma at?_run_eq_alone (hdir : dir ∈ dirs) (memory memory' : σ) :
    (suite.run dirs (w, memory)).2.1.tree.at? (w.place dir.snapshotPath) =
      (suite.runFixture dir (w, memory')).2.1.tree.at? (w.place dir.snapshotPath) := by
  have hstart := Follows.refl suite hnamed
  have hbelow := (hdirs dir hdir).isDirectory
  rw [hstart.at?_run hcompiler hnamed hroot hdirs memory' memory hdir,
    ← hstart.at?_runFixture hcompiler hnamed hbelow memory' memory']

/-- A run leaves the snapshot of a fixture as the fixture would have left it alone. -/
lemma node?_run_eq_alone (hdir : dir ∈ dirs) (memory memory' : σ) :
    (suite.run dirs (w, memory)).2.1.node? dir.snapshotPath =
      (suite.runFixture dir (w, memory')).2.1.node? dir.snapshotPath := by
  have hstart := Follows.refl suite hnamed
  have halone := (hstart.runFixture hcompiler.leavesTree dir memory').agreesOff
  have hrun := (hstart.run hcompiler.leavesTree dirs memory).agreesOff
  refine (halone.symm.trans hrun).node?_eq_of_at?_eq ?_
  rw [halone.place_eq]
  exact at?_run_eq_alone hcompiler hnamed hdirs hroot hdir memory memory'

/-- Two runs over the same fixtures leave the same workspace, whatever their orders. -/
lemma run_agreesOff_run (hmem : ∀ dir, dir ∈ order ↔ dir ∈ dirs) (memory memory' : σ) :
    AgreesOff ∅ (suite.run dirs (w, memory)).2.1 (suite.run order (w, memory')).2.1 := by
  have hbelow : ∀ dir ∈ order, dir.IsBelow w root := fun dir hdir => hdirs dir ((hmem dir).mp hdir)
  have hfirst := suite.run_agreesOff hcompiler.leavesTree dirs w memory
  have hsecond : AgreesOff (placesOf w dirs) w (suite.run order (w, memory')).2.1 := by
    refine (suite.run_agreesOff hcompiler.leavesTree order w memory').mono ?_
    rintro place ⟨dir, hdir, hplace⟩
    exact ⟨dir, (hmem dir).mp hdir, hplace⟩
  refine (hfirst.symm.trans hsecond).nowhere ?_
  rintro place ⟨dir, hdir, rfl⟩
  rw [at?_run_eq_alone hcompiler hnamed hdirs hroot hdir memory memory,
    at?_run_eq_alone hcompiler hnamed hbelow hroot ((hmem dir).mpr hdir) memory' memory]

end Below

/-- A run over fixtures that were found gives each of them the outcome and the snapshot that it
would have alone. Any order of the same fixtures gives the same outcomes and the same workspace,
and the fixtures that a filter selects end as in the run over all, the other snapshots staying as
they were. -/
theorem run_isolated (hcompiler : suite.compiler.IsFunction answer) (hnamed : w.tree.WellNamed)
    (hdiscover : discover? w root = some dirs) (hchosen : ∀ dir ∈ chosen, dir ∈ dirs)
    (memory memory' : σ) :
    suite.results chosen (w, memory) =
        chosen.map (fun dir => (dir, (suite.runFixture dir (w, memory')).1)) ∧
      (∀ dir ∈ chosen, (suite.run chosen (w, memory)).2.1.node? dir.snapshotPath =
        (suite.runFixture dir (w, memory')).2.1.node? dir.snapshotPath) ∧
      (∀ order : List FixtureDir, order.Perm chosen →
        (suite.results order (w, memory')).Perm (suite.results chosen (w, memory)) ∧
          AgreesOff ∅ (suite.run chosen (w, memory)).2.1 (suite.run order (w, memory')).2.1) ∧
      ∀ filter : Option String,
        suite.results (select filter dirs) (w, memory') =
            (suite.results dirs (w, memory)).filter (fun result => result.1 ∈ select filter dirs) ∧
          ∀ dir ∈ dirs,
            (suite.run (select filter dirs) (w, memory')).2.1.node? dir.snapshotPath =
              if dir ∈ select filter dirs then
                (suite.run dirs (w, memory)).2.1.node? dir.snapshotPath
              else w.node? dir.snapshotPath := by
  have hroot := isDirectory_of_discover? hdiscover
  have hall := isBelow_of_discover? hnamed hdiscover
  have hbelow : ∀ dir ∈ chosen, dir.IsBelow w root := fun dir hdir => hall dir (hchosen dir hdir)
  refine ⟨results_eq_map hcompiler hnamed hbelow memory memory', fun dir hdir =>
    node?_run_eq_alone hcompiler hnamed hbelow hroot hdir memory memory',
    fun order hperm => ⟨?_, ?_⟩, fun filter => ?_⟩
  · have horder : ∀ dir ∈ order, dir.IsBelow w root :=
      fun dir hdir => hbelow dir (hperm.mem_iff.mp hdir)
    rw [results_eq_map hcompiler hnamed horder memory' memory,
      results_eq_map hcompiler hnamed hbelow memory memory]
    exact hperm.map _
  · exact run_agreesOff_run hcompiler hnamed hbelow hroot (fun dir => hperm.mem_iff) memory memory'
  · obtain ⟨keeps, hselect⟩ := select_eq_filter filter
    have hselected : ∀ dir ∈ select filter dirs, dir.IsBelow w root := by
      intro dir hdir
      rw [hselect] at hdir
      exact hall dir (List.mem_of_mem_filter hdir)
    constructor
    · rw [results_eq_map hcompiler hnamed hselected memory' memory,
        results_eq_map hcompiler hnamed hall memory memory, List.filter_map, hselect]
      congr 1
      refine List.filter_congr fun dir hdir => ?_
      simp [hdir]
    · intro dir hdir
      split_ifs with hmem
      · rw [node?_run_eq_alone hcompiler hnamed hselected hroot hmem memory' memory,
          node?_run_eq_alone hcompiler hnamed hall hroot hdir memory memory]
      · exact node?_run_of_not_mem hcompiler.leavesTree hroot hselected (hall dir hdir) hmem memory'

/-- The small suite run backwards, with a fixture left out and another one run twice. -/
theorem run_isolated_sample :
    let chosen : List FixtureDir := [⟨"c", "suite/c"⟩, ⟨"a", "suite/a"⟩, ⟨"c", "suite/c"⟩]
    let selected := select (some "b") FixtureDir.samples
    (sample .record).compiler.IsFunction Compiler.echoAnswer ∧
      Workspace.sample.tree.WellNamed ∧ discover? .sample "suite" = some FixtureDir.samples ∧
      (∀ dir ∈ chosen, dir ∈ FixtureDir.samples) ∧
      (∃ outcome, (⟨"a", "suite/a"⟩, outcome) ∈ (sample .record).results chosen (.sample, ()) ∧
        outcome.result = .ok .recorded) ∧
      ((sample .record).run selected (.sample, ())).2.1.node? "suite/a/output.js" = none := by
  intro chosen selected
  have hchosen : ∀ dir ∈ chosen, dir ∈ FixtureDir.samples := by decide
  obtain ⟨hresults, -, -, hfilter⟩ := run_isolated (isFunction_sample .record) wellNamed_sample
    discover?_sample hchosen () ()
  refine ⟨isFunction_sample .record, wellNamed_sample, discover?_sample, hchosen, ⟨_, ?_,
    recorded_sample⟩, ?_⟩
  · rw [hresults]
    exact List.mem_map_of_mem (by decide)
  · have hout : (⟨"a", "suite/a"⟩ : FixtureDir) ∉ selected := by decide
    refine ((hfilter (some "b")).2 ⟨"a", "suite/a"⟩ (by decide)).trans ?_
    rw [if_neg hout]
    decide +kernel

end Suite

end SnapshotSuite
