import SnapshotSuite.Proofs.Suite.Run

/-!
# Which calls the compiler gets

A logged compiler answers as before and keeps a list of the calls that it gets. Logging changes
nothing about a run, and the list grows by the call of each outcome: what an outcome says about the
call is what happened, and there are no other calls.
-/

namespace SnapshotSuite

variable {σ : Type}

/-- The same compiler, which also notes every call behind those it has noted. -/
def Compiler.logged (compiler : Compiler σ) : Compiler (σ × List Call) :=
  fun input configuration (w, memory, log) =>
    let (result, w, memory) := compiler input configuration (w, memory)
    (result, w, memory, log ++ [⟨input, configuration⟩])

namespace Suite

/-- The same suite with its compiler logged. -/
def logged (suite : Suite σ) : Suite (σ × List Call) :=
  ⟨suite.plugin, suite.compiler.logged, suite.mode⟩

/-- The calls that the compiler gets in a run, in order. -/
def calls (suite : Suite σ) (dirs : List FixtureDir) (state : Workspace × σ) : List Call :=
  (suite.logged.run dirs (state.1, state.2, [])).2.2.2

variable (suite : Suite σ) (dir : FixtureDir) (dirs : List FixtureDir) (w : Workspace) (memory : σ)
  (log : List Call)

/-- A fixture adds its call to the log, if it makes one. -/
lemma runFixture_logged :
    suite.logged.runFixture dir (w, memory, log) =
      ((suite.runFixture dir (w, memory)).1, (suite.runFixture dir (w, memory)).2.1,
        (suite.runFixture dir (w, memory)).2.2,
        log ++ (suite.runFixture dir (w, memory)).1.call.toList) := by
  have hcompiler : suite.logged.compiler = suite.compiler.logged := rfl
  unfold runFixture
  cases hload : Fixture.load w dir with
  | error error => simp [hload]
  | ok fixture =>
    have hcall : suite.logged.call fixture = suite.call fixture := rfl
    simp only [hload, hcall, hcompiler, Compiler.logged]
    generalize suite.compiler _ _ (w, memory) = result
    obtain ⟨_ | text, after, memory'⟩ := result
    · rfl
    · rfl

/-- A run adds the calls of its outcomes to the log. -/
lemma run_logged :
    suite.logged.run dirs (w, memory, log) =
      ((suite.run dirs (w, memory)).1, (suite.run dirs (w, memory)).2.1,
        (suite.run dirs (w, memory)).2.2,
        log ++ (suite.run dirs (w, memory)).1.filterMap Outcome.call) := by
  induction dirs generalizing w memory log with
  | nil => rw [run_nil, run_nil, List.filterMap_nil, List.append_nil]
  | cons dir dirs ih =>
    rw [run_cons, run_cons, runFixture_logged, ih]
    cases hcall : (suite.runFixture dir (w, memory)).1.call <;> simp [hcall]

/-- The compiler gets the calls of the outcomes, in their order, and no others. -/
theorem calls_eq_filterMap (state : Workspace × σ) :
    suite.calls dirs state = (suite.run dirs state).1.filterMap Outcome.call := by
  rw [calls, run_logged, List.nil_append]

variable {suite dir w} {error : FixtureError} {fixture : Fixture}

/-- A fixture that can be loaded makes its call. -/
lemma call_runFixture_of_load_ok (h : Fixture.load w dir = .ok fixture) (memory : σ) :
    (suite.runFixture dir (w, memory)).1.call = some (suite.call fixture) := by
  obtain ⟨result, hresult⟩ := suite.exists_runFixture_of_load_ok h memory
  rw [hresult]

section Below

variable {dirs} {root : Path} {i : Nat} (hcompiler : suite.compiler.LeavesTree)
  (hnamed : w.tree.WellNamed) (hdirs : ∀ dir ∈ dirs, dir.IsBelow w root)
  (hi : dirs[i]? = some dir)

include hcompiler hnamed hdirs hi

/-- The fixtures before it change nothing about how a fixture is loaded. -/
lemma load_run_take (memory : σ) :
    Fixture.load (suite.run (dirs.take i) (w, memory)).2.1 dir = Fixture.load w dir := by
  have hdir := (hdirs dir (List.mem_of_getElem? hi)).isDirectory
  have hfollows := (Follows.refl suite hnamed).run hcompiler (dirs.take i) memory
  exact Fixture.load_eq hfollows.agreesOff hnamed hfollows.wellNamed hdir

/-- A fixture that cannot be loaded at the start of a run ends in that error. -/
lemma getElem?_run_of_load_error (h : Fixture.load w dir = .error error) (memory : σ) :
    (suite.run dirs (w, memory)).1[i]? = some ⟨dir.name, none, .error error⟩ := by
  have hload := (load_run_take hcompiler hnamed hdirs hi memory).trans h
  rw [getElem?_run hi, runFixture_of_load_error hload]

/-- A fixture that can be loaded at the start of a run makes the call that it would make there. -/
lemma exists_getElem?_run_of_load_ok (h : Fixture.load w dir = .ok fixture) (memory : σ) :
    ∃ outcome, (suite.run dirs (w, memory)).1[i]? = some outcome ∧
      outcome.call = some (suite.call fixture) := by
  have hload := (load_run_take hcompiler hnamed hdirs hi memory).trans h
  exact ⟨_, getElem?_run hi _, call_runFixture_of_load_ok hload _⟩

end Below

end Suite

end SnapshotSuite
