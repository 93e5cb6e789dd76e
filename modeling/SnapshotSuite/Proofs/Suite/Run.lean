import Mathlib.Data.Set.Insert
import SnapshotSuite.Proofs.Suite.Step

/-!
# Running fixtures one after the other

`Suite.Follows w v` is the invariant of a run that began at `w` and has come to `v`: snapshots apart
nothing has changed, and in assert mode nothing at all. It makes every fixture end as it would have
ended at the start, and lets a run over fixtures below one root be read off its fixtures one by one.
-/

namespace SnapshotSuite

open Workspace

/-- The places of the snapshots of some fixtures. -/
def placesOf (w : Workspace) (dirs : List FixtureDir) : Set Location :=
  {place | ∃ dir ∈ dirs, w.place dir.snapshotPath = place}

namespace Suite

variable {σ : Type} {suite : Suite σ} {w v : Workspace} {root : Path}
  {dir : FixtureDir} {dirs : List FixtureDir}
  {answer : Path → Bytes → Configuration → Except CompilerFailure String}

lemma run_nil (state : Workspace × σ) : suite.run [] state = ([], state) := rfl

lemma run_cons (dir : FixtureDir) (dirs : List FixtureDir) (state : Workspace × σ) :
    suite.run (dir :: dirs) state =
      ((suite.runFixture dir state).1 :: (suite.run dirs (suite.runFixture dir state).2).1,
        (suite.run dirs (suite.runFixture dir state).2).2) := rfl

/-- A run has one outcome for each fixture, in order and with its name. -/
lemma map_name_run (dirs : List FixtureDir) (state : Workspace × σ) :
    (suite.run dirs state).1.map Outcome.name = dirs.map FixtureDir.name := by
  induction dirs generalizing state with
  | nil => rfl
  | cons dir dirs ih => rw [run_cons, List.map_cons, List.map_cons, name_runFixture, ih]

/-- Every outcome of a run is that of its fixture after those before it. -/
lemma getElem?_run {i : Nat} (hi : dirs[i]? = some dir) (state : Workspace × σ) :
    (suite.run dirs state).1[i]? =
      some (suite.runFixture dir (suite.run (dirs.take i) state).2).1 := by
  induction dirs generalizing state i with
  | nil => cases hi
  | cons first dirs ih =>
    rw [run_cons]
    cases i with
    | zero =>
      obtain rfl : first = dir := Option.some.inj hi
      rfl
    | succ i =>
      rw [List.take_succ_cons, run_cons]
      exact ih hi _

/-- The fixtures of a run, each with what became of it. -/
def results (suite : Suite σ) (dirs : List FixtureDir) (state : Workspace × σ) :
    List (FixtureDir × Outcome) :=
  dirs.zip (suite.run dirs state).1

/-! ### Runs with any compiler that leaves the tree alone -/

/-- A run changes the snapshots of its fixtures and nothing else. -/
lemma run_agreesOff (hcompiler : suite.compiler.LeavesTree) (dirs : List FixtureDir)
    (w : Workspace) (memory : σ) :
    AgreesOff (placesOf w dirs) w (suite.run dirs (w, memory)).2.1 := by
  induction dirs generalizing w memory with
  | nil => exact AgreesOff.refl _ w
  | cons dir dirs ih =>
    have hstep := suite.runFixture_agreesOff hcompiler dir w memory
    refine (hstep.mono ?_).trans ((ih _ (suite.runFixture dir (w, memory)).2.2).mono ?_)
    · rintro place rfl
      exact ⟨dir, List.mem_cons_self, rfl⟩
    · rintro place ⟨other, hother, rfl⟩
      exact ⟨other, List.mem_cons_of_mem _ hother, (hstep.place_eq _).symm⟩

/-- A run in assert mode changes nothing. -/
lemma run_assert (hcompiler : suite.compiler.LeavesTree) (hmode : suite.mode = .assert)
    (dirs : List FixtureDir) (w : Workspace) (memory : σ) :
    (suite.run dirs (w, memory)).2.1 = w := by
  induction dirs generalizing w memory with
  | nil => rfl
  | cons dir dirs ih => exact (ih _ _).trans (runFixture_assert hcompiler hmode)

/-- In assert mode, with a compiler that remembers nothing, every fixture ends as it would have ended
at the start. -/
lemma run_assert_outcomes {suite : Suite Unit} (hcompiler : suite.compiler.LeavesTree)
    (hmode : suite.mode = .assert) (dirs : List FixtureDir) (w : Workspace) :
    (suite.run dirs (w, ())).1 = dirs.map fun dir => (suite.runFixture dir (w, ())).1 := by
  induction dirs with
  | nil => rfl
  | cons dir dirs ih =>
    have hstate : (suite.runFixture dir (w, ())).2 = (w, ()) :=
      Prod.ext (runFixture_assert hcompiler hmode) rfl
    rw [run_cons, hstate, ih, List.map_cons]

/-! ### Runs with a compiler that is a function -/

/-- What a workspace can have become in a run that began at another one. -/
structure Follows (suite : Suite σ) (w v : Workspace) : Prop where
  agreesOff : AgreesOff snapshotPlaces w v
  wellNamed : v.tree.WellNamed
  eq_of_assert : suite.mode = .assert → v = w

lemma Follows.refl (suite : Suite σ) (hnamed : w.tree.WellNamed) : suite.Follows w w :=
  ⟨AgreesOff.refl _ w, hnamed, fun _ => rfl⟩

/-- One more fixture keeps the invariant: one that cannot be loaded changes nothing, and any other
one has a directory. -/
lemma Follows.runFixture (hcompiler : suite.compiler.LeavesTree) (h : suite.Follows w v)
    (dir : FixtureDir) (memory : σ) :
    suite.Follows w (suite.runFixture dir (v, memory)).2.1 := by
  cases hload : Fixture.load v dir with
  | error error =>
    rw [runFixture_of_load_error hload]
    exact h
  | ok fixture =>
    refine ⟨h.agreesOff.trans ((runFixture_agreesOff hcompiler dir v memory).mono ?_),
      runFixture_wellNamed hcompiler h.wellNamed, fun hmode => ?_⟩
    · rintro place rfl
      exact place_snapshotPath_mem (Fixture.isDirectory_of_load hload)
    · exact (runFixture_assert hcompiler hmode).trans (h.eq_of_assert hmode)

/-- A fixture ends as it would have ended at the start. -/
lemma Follows.outcome_eq (hcompiler : suite.compiler.IsFunction answer)
    (hnamed : w.tree.WellNamed) (h : suite.Follows w v) (hdir : w.isDirectory dir.path = true)
    (memory memory' : σ) :
    (suite.runFixture dir (v, memory')).1 = (suite.runFixture dir (w, memory)).1 := by
  have hattempt := attempt_eq hcompiler h.agreesOff hnamed h.wellNamed hdir memory memory'
  cases hw : (suite.attempt dir (w, memory)).2 with
  | error error =>
    have hv : (suite.attempt dir (v, memory')).2 = .error error := by rw [hattempt, hw]
    rw [(runFixture_of_attempt_error hcompiler.leavesTree hw).1,
      (runFixture_of_attempt_error hcompiler.leavesTree hv).1, hattempt]
  | ok text =>
    have hv : (suite.attempt dir (v, memory')).2 = .ok text := by rw [hattempt, hw]
    rw [(runFixture_of_attempt_ok hcompiler.leavesTree hw).1,
      (runFixture_of_attempt_ok hcompiler.leavesTree hv).1, hattempt]
    cases hmode : suite.mode with
    | assert => rw [h.eq_of_assert hmode]
    | record => rw [reconcile_record_congr h.agreesOff hdir]

/-- A fixture that is recorded leaves what it would have left at the start; any other leaves its
snapshot as it found it. -/
lemma Follows.at?_runFixture (hcompiler : suite.compiler.IsFunction answer)
    (hnamed : w.tree.WellNamed) (h : suite.Follows w v) (hdir : w.isDirectory dir.path = true)
    (memory memory' : σ) :
    (suite.runFixture dir (v, memory')).2.1.tree.at? (w.place dir.snapshotPath) =
      if (suite.runFixture dir (w, memory)).1.result = .ok .recorded then
        (suite.runFixture dir (w, memory)).2.1.tree.at? (w.place dir.snapshotPath)
      else v.tree.at? (w.place dir.snapshotPath) := by
  have houtcome := h.outcome_eq hcompiler hnamed hdir memory memory'
  rcases runFixture_cases hcompiler.leavesTree dir v memory' with
    ⟨error, hresult, hafter⟩ | ⟨-, hresult, hafter⟩ | ⟨hmode, hresult, text, htext, hwrite⟩
  · rw [houtcome] at hresult
    simp [hresult, hafter]
  · rw [houtcome] at hresult
    simp [hresult, hafter]
  · rw [houtcome] at hresult
    rw [if_pos hresult, ← h.agreesOff.place_eq, at?_of_writeBytes hwrite]
    rcases runFixture_cases hcompiler.leavesTree dir w memory with
      ⟨error, hresult', -⟩ | ⟨hmode', -⟩ | ⟨-, -, text', htext', hwrite'⟩
    · rw [hresult] at hresult'
      cases hresult'
    · rw [hmode] at hmode'
      cases hmode'
    · rw [attempt_eq hcompiler h.agreesOff hnamed h.wellNamed hdir memory memory', htext'] at htext
      cases htext
      rw [h.agreesOff.place_eq, at?_of_writeBytes hwrite']

/-- However many fixtures are run, the invariant is kept. -/
lemma Follows.run (hcompiler : suite.compiler.LeavesTree) (h : suite.Follows w v)
    (dirs : List FixtureDir) (memory : σ) : suite.Follows w (suite.run dirs (v, memory)).2.1 := by
  induction dirs generalizing v memory with
  | nil => exact h
  | cons dir dirs ih => exact ih (h.runFixture hcompiler dir memory) _

section Below

variable (hcompiler : suite.compiler.IsFunction answer) (hnamed : w.tree.WellNamed)
  (hroot : w.isDirectory root = true) (hdirs : ∀ dir ∈ dirs, dir.IsBelow w root)

include hcompiler hnamed hdirs

/-- The outcomes of a run are those of its fixtures at the start. -/
lemma Follows.run_outcomes (h : suite.Follows w v) (memory memory' : σ) :
    (suite.run dirs (v, memory')).1 =
      dirs.map fun dir => (suite.runFixture dir (w, memory)).1 := by
  induction dirs generalizing v memory' with
  | nil => rfl
  | cons dir dirs ih =>
    have hdir := (hdirs dir List.mem_cons_self).isDirectory
    rw [run_cons, List.map_cons, h.outcome_eq hcompiler hnamed hdir memory memory']
    rw [← ih (fun other hother => hdirs other (List.mem_cons_of_mem _ hother))
      (h.runFixture hcompiler.leavesTree dir memory') (suite.runFixture dir (v, memory')).2.2]

include hroot

/-- After a run the snapshot of a fixture is what the fixture would have recorded at the start, or
still what stood there. -/
lemma Follows.at?_run (h : suite.Follows w v) (memory memory' : σ) (hdir : dir ∈ dirs) :
    (suite.run dirs (v, memory')).2.1.tree.at? (w.place dir.snapshotPath) =
      if (suite.runFixture dir (w, memory)).1.result = .ok .recorded then
        (suite.runFixture dir (w, memory)).2.1.tree.at? (w.place dir.snapshotPath)
      else v.tree.at? (w.place dir.snapshotPath) := by
  induction dirs generalizing v memory' with
  | nil => cases hdir
  | cons first dirs ih =>
    have hfirst := hdirs first List.mem_cons_self
    have hrest : ∀ other ∈ dirs, other.IsBelow w root :=
      fun other hother => hdirs other (List.mem_cons_of_mem _ hother)
    have hnext := h.runFixture hcompiler.leavesTree first memory'
    have hstep := runFixture_agreesOff hcompiler.leavesTree first v memory'
    rw [run_cons]
    by_cases hmem : dir ∈ dirs
    · -- The rest of the run decides, from whatever the first fixture has left.
      refine (ih hrest hnext _ hmem).trans ?_
      split_ifs with hrecorded
      · rfl
      by_cases hsame : dir = first
      · subst hsame
        rw [h.at?_runFixture hcompiler hnamed hfirst.isDirectory memory memory', if_neg hrecorded]
      · refine hstep.at? _ fun hplace => hsame ?_
        rw [Set.mem_singleton_iff, h.agreesOff.place_eq] at hplace
        exact (hrest dir hmem).eq_of_place_eq hroot hfirst hplace
    · -- The rest of the run leaves the snapshot of the first fixture alone.
      obtain rfl : dir = first := (List.mem_cons.mp hdir).resolve_right hmem
      have hlater := suite.run_agreesOff hcompiler.leavesTree dirs
        (suite.runFixture dir (v, memory')).2.1 (suite.runFixture dir (v, memory')).2.2
      refine (hlater.at? _ ?_).trans (h.at?_runFixture hcompiler hnamed hfirst.isDirectory _ _)
      rintro ⟨other, hother, hplace⟩
      rw [hnext.agreesOff.place_eq] at hplace
      exact hmem ((hrest other hother).eq_of_place_eq hroot hfirst hplace ▸ hother)

end Below

end Suite

end SnapshotSuite
