import Mathlib.Data.List.Forall2
import SnapshotSuite.Proofs.Suite.Isolation

/-!
# Asserting what has been recorded

A run in assert mode after a run in record mode finds a match at exactly the fixtures that were
recorded, and recording once more gives the same outcomes and changes nothing.
-/

namespace SnapshotSuite

open Workspace

namespace Suite

variable {σ : Type} {suite : Suite σ} {w : Workspace} {root : Path} {memory : σ}
  {dir : FixtureDir} {dirs : List FixtureDir}
  {answer : Path → Bytes → Configuration → Except CompilerFailure String}

/-- The suite in another mode. -/
def inMode (suite : Suite σ) (mode : Mode) : Suite σ :=
  { suite with mode }

@[simp] lemma mode_inMode (mode : Mode) : (suite.inMode mode).mode = mode := rfl

/-! ### Fixtures that pass -/

/-- A fixture is recorded if the compiler gives a text that can be written. -/
lemma result_eq_recorded_iff (hcompiler : suite.compiler.LeavesTree) :
    ((suite.inMode .record).runFixture dir (w, memory)).1.result = .ok .recorded ↔
      ∃ text, (suite.attempt dir (w, memory)).2 = .ok text ∧
        (reconcile .record w dir.snapshotPath text).1 = .ok .recorded := by
  have hrecord : (suite.inMode .record).compiler.LeavesTree := hcompiler
  cases hattempt : (suite.attempt dir (w, memory)).2 with
  | error error =>
    have houtcome := (runFixture_of_attempt_error hrecord hattempt).1
    simp [houtcome]
  | ok text =>
    have houtcome := (runFixture_of_attempt_ok hrecord hattempt).1
    simp [houtcome]

/-- A fixture matches if the compiler gives the text of its snapshot. -/
lemma result_eq_matched_iff (hcompiler : suite.compiler.LeavesTree) :
    ((suite.inMode .assert).runFixture dir (w, memory)).1.result = .ok .matched ↔
      ∃ text, (suite.attempt dir (w, memory)).2 = .ok text ∧
        w.node? dir.snapshotPath = some (.file (Utf8.bytesOf text)) := by
  have hassert : (suite.inMode .assert).compiler.LeavesTree := hcompiler
  cases hattempt : (suite.attempt dir (w, memory)).2 with
  | error error =>
    have houtcome := (runFixture_of_attempt_error hassert hattempt).1
    simp [houtcome]
  | ok text =>
    have houtcome := (runFixture_of_attempt_ok hassert hattempt).1
    simp [houtcome, reconcile_assert, compareSnapshot_eq_matched_iff]

section Below

variable (hcompiler : suite.compiler.IsFunction answer) (hnamed : w.tree.WellNamed)
  (hroot : w.isDirectory root = true) (hdirs : ∀ dir ∈ dirs, dir.IsBelow w root)

include hcompiler hnamed hroot hdirs

/-- After a run in record mode a fixture matches exactly if it was recorded. -/
lemma recorded_iff_matched (hdir : dir ∈ dirs) (memory memory' : σ) :
    ((suite.inMode .record).runFixture dir (w, memory)).1.result = .ok .recorded ↔
      ((suite.inMode .assert).runFixture dir
        (((suite.inMode .record).run dirs (w, memory)).2.1, memory')).1.result = .ok .matched := by
  have hbelow := (hdirs dir hdir).isDirectory
  have hrecord : (suite.inMode .record).compiler.IsFunction answer := hcompiler
  have hfollows := (Follows.refl (suite.inMode .record) hnamed).run hrecord.leavesTree dirs memory
  have hnode := node?_run_eq_alone hrecord hnamed hdirs hroot hdir memory memory
  generalize ((suite.inMode .record).run dirs (w, memory)).2.1 = v at hfollows hnode ⊢
  have hattempt : suite.attempt dir (v, memory') = suite.attempt dir (w, memory) :=
    attempt_eq hcompiler hfollows.agreesOff hnamed hfollows.wellNamed hbelow memory memory'
  constructor
  · intro hrecorded
    rw [result_eq_matched_iff hcompiler.leavesTree, hattempt]
    rcases runFixture_cases hrecord.leavesTree dir w memory with
      ⟨_, herror, -⟩ | ⟨hmode, -⟩ | ⟨-, -, text, htext, hwrite⟩
    · rw [hrecorded] at herror
      cases herror
    · cases hmode
    · exact ⟨text, htext, hnode.trans (node?_of_writeBytes hwrite)⟩
  · intro hmatched
    rw [result_eq_matched_iff hcompiler.leavesTree, hattempt] at hmatched
    obtain ⟨text, htext, hstored⟩ := hmatched
    -- The snapshot is a file now, so it can be written now, and so it could before.
    have hbelow' := (hfollows.agreesOff.isDirectory_eq dir.path).trans hbelow
    obtain ⟨v', hwrite⟩ := exists_writeBytes_of_isFile hbelow' (isFile_iff.mpr ⟨_, hstored⟩)
      (Utf8.bytesOf text)
    rw [result_eq_recorded_iff hcompiler.leavesTree]
    refine ⟨text, htext, ?_⟩
    rw [← reconcile_record_congr hfollows.agreesOff hbelow, reconcile_record_eq_ok_iff.mpr hwrite]

/-- A run over what an equal run has left leaves it as it is. -/
lemma agreesOff_run_again (memory memory' : σ) :
    AgreesOff ∅ (suite.run dirs (w, memory)).2.1
      (suite.run dirs ((suite.run dirs (w, memory)).2.1, memory')).2.1 := by
  have hfollows := (Follows.refl suite hnamed).run hcompiler.leavesTree dirs memory
  have hfirst : ∀ dir ∈ dirs, _ := fun dir (hdir : dir ∈ dirs) =>
    (Follows.refl suite hnamed).at?_run hcompiler hnamed hroot hdirs memory memory hdir
  generalize (suite.run dirs (w, memory)).2.1 = v at hfollows hfirst ⊢
  refine (suite.run_agreesOff hcompiler.leavesTree dirs v memory').nowhere ?_
  rintro place ⟨dir, hdir, rfl⟩
  have hsecond := hfollows.at?_run hcompiler hnamed hroot hdirs memory memory' hdir
  rw [hfollows.agreesOff.place_eq, hsecond, hfirst dir hdir]
  split_ifs <;> rfl

end Below

/-- Whatever a run in record mode over the fixtures below a root does, the same fixtures are found
afterwards, a run in assert mode over what it leaves finds a match at exactly those that were
recorded, and recording once more gives the same outcomes and leaves the same workspace. -/
theorem assert_after_record (hcompiler : suite.compiler.IsFunction answer)
    (hnamed : w.tree.WellNamed) (hdiscover : discover? w root = some dirs) (memory memory' : σ) :
    let recorded := (suite.inMode .record).run dirs (w, memory)
    let asserted := (suite.inMode .assert).run dirs (recorded.2.1, memory')
    let again := (suite.inMode .record).run dirs (recorded.2.1, memory')
    discover? recorded.2.1 root = some dirs ∧
      List.Forall₂ (fun first second => first.result = .ok .recorded ↔ second.result = .ok .matched)
        recorded.1 asserted.1 ∧
      again.1 = recorded.1 ∧ AgreesOff ∅ recorded.2.1 again.2.1 := by
  intro recorded asserted again
  have hroot := isDirectory_of_discover? hdiscover
  have hdirs := isBelow_of_discover? hnamed hdiscover
  have hrecord : (suite.inMode .record).compiler.IsFunction answer := hcompiler
  have hassert : (suite.inMode .assert).compiler.IsFunction answer := hcompiler
  have hstart := Follows.refl (suite.inMode .record) hnamed
  have hfollows : (suite.inMode .record).Follows w recorded.2.1 := hstart.run hrecord.leavesTree dirs memory
  have hdirs' : ∀ dir ∈ dirs, dir.IsBelow recorded.2.1 root :=
    fun dir hdir => (hdirs dir hdir).agree hfollows.agreesOff
  have houtcomes : recorded.1 = _ := hstart.run_outcomes hrecord hnamed hdirs memory memory
  refine ⟨?_, ?_, ?_, ?_⟩
  · rw [discover?_eq hfollows.agreesOff hnamed hfollows.wellNamed, hdiscover]
  · have hasserted : asserted.1 = _ :=
      (Follows.refl (suite.inMode .assert) hfollows.wellNamed).run_outcomes hassert
        hfollows.wellNamed hdirs' memory' memory'
    rw [houtcomes, hasserted, List.forall₂_map_left_iff, List.forall₂_map_right_iff,
      List.forall₂_same]
    exact fun dir hdir => recorded_iff_matched hcompiler hnamed hroot hdirs hdir memory memory'
  · rw [houtcomes]
    exact hfollows.run_outcomes hrecord hnamed hdirs memory memory'
  · exact agreesOff_run_again hrecord hnamed hroot hdirs memory memory'

/-- The law for the small suite, whose first fixture is recorded and then matches. -/
theorem assert_after_record_sample :
    let recorded := ((sample .record).inMode .record).run FixtureDir.samples (.sample, ())
    let asserted := ((sample .record).inMode .assert).run FixtureDir.samples (recorded.2.1, ())
    (sample .record).compiler.IsFunction Compiler.echoAnswer ∧
      Workspace.sample.tree.WellNamed ∧ discover? .sample "suite" = some FixtureDir.samples ∧
      discover? recorded.2.1 "suite" = some FixtureDir.samples ∧
      recorded.1.head?.map Outcome.result = some (.ok .recorded) ∧
      asserted.1.head?.map Outcome.result = some (.ok .matched) := by
  intro recorded asserted
  obtain ⟨hfound, hmatches, -⟩ :=
    assert_after_record (isFunction_sample .record) wellNamed_sample discover?_sample () ()
  obtain ⟨hfirst, -⟩ := List.forall₂_cons.mp hmatches
  exact ⟨isFunction_sample .record, wellNamed_sample, discover?_sample, hfound,
    congrArg some recorded_sample, congrArg some (hfirst.mp recorded_sample)⟩

end Suite

end SnapshotSuite
