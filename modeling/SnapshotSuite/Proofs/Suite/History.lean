import SnapshotSuite.Proofs.Suite.Run

/-!
# Histories of runs

A history is a list of runs over one tree, each with its own mode, plugin and compiler. A snapshot
changes only in a step that ends as recorded, so afterwards it holds the text of the last such step,
or is what it was at the start.
-/

namespace SnapshotSuite

open Workspace

/-- A fixture of a run: what became of it, the text that the compiler gave if it gave one, and the
workspaces before and after. -/
structure Step where
  dir : FixtureDir
  outcome : Outcome
  produced : Option String
  before : Workspace
  after : Workspace

/-- A run: the suite, what its compiler remembers at the start, and the fixtures. -/
structure Session where
  σ : Type
  suite : Suite σ
  memory : σ
  dirs : List FixtureDir

namespace Suite

variable {σ : Type} {suite : Suite σ}

/-- The step of a fixture. -/
def step (suite : Suite σ) (dir : FixtureDir) (state : Workspace × σ) : Step where
  dir
  outcome := (suite.runFixture dir state).1
  produced := (suite.attempt dir state).2.toOption
  before := state.1
  after := (suite.runFixture dir state).2.1

/-- The steps of a run. -/
def steps (suite : Suite σ) : List FixtureDir → Workspace × σ → List Step
  | [], _ => []
  | dir :: dirs, state => suite.step dir state :: suite.steps dirs (suite.runFixture dir state).2

/-- The steps of a run are those of its fixtures, in order, with its outcomes. -/
lemma map_steps (dirs : List FixtureDir) (state : Workspace × σ) :
    (suite.steps dirs state).map (fun step => (step.dir, step.outcome)) =
      suite.results dirs state := by
  induction dirs generalizing state with
  | nil => rfl
  | cons dir dirs ih =>
    rw [steps, List.map_cons, ih, results, results, run_cons, List.zip_cons_cons, step]

end Suite

namespace Session

/-- The workspace that a run leaves. -/
def after (session : Session) (w : Workspace) : Workspace :=
  (session.suite.run session.dirs (w, session.memory)).2.1

/-- The steps of a run from a workspace on. -/
def steps (session : Session) (w : Workspace) : List Step :=
  session.suite.steps session.dirs (w, session.memory)

/-- The workspace that a history leaves. -/
def afterAll : List Session → Workspace → Workspace
  | [], w => w
  | session :: sessions, w => afterAll sessions (session.after w)

/-- The steps of a history. -/
def allSteps : List Session → Workspace → List Step
  | [], _ => []
  | session :: sessions, w => session.steps w ++ allSteps sessions (session.after w)

/-- The results of a history, run by run. -/
def allResults : List Session → Workspace → List (FixtureDir × Outcome)
  | [], _ => []
  | session :: sessions, w =>
    session.suite.results session.dirs (w, session.memory) ++ allResults sessions (session.after w)

/-- The steps of a history are those of its fixtures, in order, with the outcomes of its runs. -/
lemma map_allSteps (sessions : List Session) (w : Workspace) :
    (allSteps sessions w).map (fun step => (step.dir, step.outcome)) = allResults sessions w := by
  induction sessions generalizing w with
  | nil => rfl
  | cons session sessions ih =>
    rw [allSteps, allResults, List.map_append, ih, steps, Suite.map_steps]

end Session

/-- The last step that recorded a fixture. -/
def lastRecording (dir : FixtureDir) (steps : List Step) : Option Step :=
  (steps.filter fun step => step.dir = dir ∧ step.outcome.result = .ok .recorded).getLast?

lemma lastRecording_append (dir : FixtureDir) (steps more : List Step) :
    lastRecording dir (steps ++ more) = (lastRecording dir more).or (lastRecording dir steps) := by
  rw [lastRecording, List.filter_append, List.getLast?_append]
  rfl

lemma lastRecording_singleton (dir : FixtureDir) (step : Step) :
    lastRecording dir [step] =
      if step.dir = dir ∧ step.outcome.result = .ok .recorded then some step else none := by
  by_cases h : step.dir = dir ∧ step.outcome.result = .ok .recorded
  · simp [lastRecording, h]
  · rw [if_neg h, lastRecording, List.filter_cons_of_neg (by simpa using h)]
    rfl

/-! ### What steps explain -/

/-- The steps account for everything that became different between two workspaces. -/
structure Explains (dirs : List FixtureDir) (w v : Workspace) (steps : List Step) : Prop where
  agreesOff : AgreesOff (placesOf w dirs) w v
  wellNamed : w.tree.WellNamed → v.tree.WellNamed
  recorded : ∀ dir ∈ dirs, ∀ step, lastRecording dir steps = some step →
    ∃ text, step.produced = some text ∧
      v.node? dir.snapshotPath = some (.file (Utf8.bytesOf text))
  unrecorded : ∀ dir ∈ dirs, lastRecording dir steps = none →
    v.node? dir.snapshotPath = w.node? dir.snapshotPath
  unchanged : ∀ step ∈ steps, step.outcome.result ≠ .ok .recorded → step.after = step.before

variable {σ : Type} {suite : Suite σ} {w v u : Workspace} {root : Path} {dir : FixtureDir}
  {dirs chosen : List FixtureDir} {steps more : List Step} {sessions : List Session}

lemma placesOf_eq {places : Set Location} (h : AgreesOff places w v) (dirs : List FixtureDir) :
    placesOf v dirs = placesOf w dirs := by
  unfold placesOf
  simp only [h.place_eq]

namespace Explains

lemma refl (dirs : List FixtureDir) (w : Workspace) : Explains dirs w w [] where
  agreesOff := AgreesOff.refl _ w
  wellNamed h := h
  recorded _ _ _ h := by cases h
  unrecorded _ _ _ := rfl
  unchanged _ h := by cases h

/-- The steps of one stretch after those of another account for both. -/
lemma trans (h : Explains dirs w v steps) (h' : Explains dirs v u more) :
    Explains dirs w u (steps ++ more) where
  agreesOff := h.agreesOff.trans (placesOf_eq h.agreesOff dirs ▸ h'.agreesOff)
  wellNamed hnamed := h'.wellNamed (h.wellNamed hnamed)
  recorded dir hdir step hlast := by
    rw [lastRecording_append] at hlast
    cases hmore : lastRecording dir more with
    | some last =>
      rw [hmore, Option.some_or] at hlast
      exact h'.recorded dir hdir step (hmore.trans hlast)
    | none =>
      rw [hmore, Option.none_or] at hlast
      rw [h'.unrecorded dir hdir hmore]
      exact h.recorded dir hdir step hlast
  unrecorded dir hdir hlast := by
    rw [lastRecording_append, Option.or_eq_none_iff] at hlast
    rw [h'.unrecorded dir hdir hlast.1, h.unrecorded dir hdir hlast.2]
  unchanged step hstep := by
    rcases List.mem_append.mp hstep with hstep | hstep
    · exact h.unchanged step hstep
    · exact h'.unchanged step hstep

/-- One fixture explains what it does. -/
lemma runFixture (hcompiler : suite.compiler.LeavesTree) (hroot : w.isDirectory root = true)
    (hdirs : ∀ dir ∈ dirs, dir.IsBelow w root) (hdir : dir ∈ dirs) (memory : σ) :
    Explains dirs w (suite.runFixture dir (w, memory)).2.1 [suite.step dir (w, memory)] where
  agreesOff := (Suite.runFixture_agreesOff hcompiler dir w memory).mono (by
    rintro place rfl
    exact ⟨dir, hdir, rfl⟩)
  wellNamed := Suite.runFixture_wellNamed hcompiler
  recorded other hother step hlast := by
    rw [lastRecording_singleton] at hlast
    split_ifs at hlast with hstep
    obtain ⟨rfl, hrecorded⟩ := hstep
    obtain rfl := Option.some.inj hlast
    rcases Suite.runFixture_cases hcompiler dir w memory with
      ⟨_, hresult, -⟩ | ⟨-, hresult, -⟩ | ⟨-, -, text, htext, hwrite⟩
    · exact absurd (hresult.symm.trans hrecorded) (by simp)
    · exact absurd (hresult.symm.trans hrecorded) (by simp)
    · exact ⟨text, by simp [Suite.step, htext, Except.toOption], node?_of_writeBytes hwrite⟩
  unrecorded other hother hlast := by
    rw [lastRecording_singleton] at hlast
    by_cases hsame : dir = other
    · subst hsame
      rw [Suite.runFixture_of_ne_recorded hcompiler]
      intro hrecorded
      simp [Suite.step, hrecorded] at hlast
    · refine (Suite.runFixture_agreesOff hcompiler dir w memory).node?_eq fun hplace => hsame ?_
      exact (hdirs dir hdir).eq_of_place_eq hroot (hdirs other hother) hplace.symm
  unchanged step hstep hresult := by
    obtain rfl := List.mem_singleton.mp hstep
    exact Suite.runFixture_of_ne_recorded hcompiler hresult

/-- The steps of a run explain what it does. -/
lemma run (hcompiler : suite.compiler.LeavesTree) (hroot : w.isDirectory root = true)
    (hdirs : ∀ dir ∈ dirs, dir.IsBelow w root) (hchosen : ∀ dir ∈ chosen, dir ∈ dirs)
    (memory : σ) :
    Explains dirs w (suite.run chosen (w, memory)).2.1 (suite.steps chosen (w, memory)) := by
  induction chosen generalizing w memory with
  | nil => exact refl dirs w
  | cons dir chosen ih =>
    have hstep := runFixture hcompiler hroot hdirs (hchosen dir List.mem_cons_self) memory
    have hrest := ih ((hstep.agreesOff.isDirectory_eq root).trans hroot)
      (fun other hother => (hdirs other hother).agree hstep.agreesOff)
      (fun other hother => hchosen other (List.mem_cons_of_mem _ hother))
      (suite.runFixture dir (w, memory)).2.2
    exact hstep.trans hrest

/-- The steps of a history explain what it does. -/
lemma history (hcompilers : ∀ session ∈ sessions, session.suite.compiler.LeavesTree)
    (hroot : w.isDirectory root = true) (hdirs : ∀ dir ∈ dirs, dir.IsBelow w root)
    (hsessions : ∀ session ∈ sessions, ∀ dir ∈ session.dirs, dir ∈ dirs) :
    Explains dirs w (Session.afterAll sessions w) (Session.allSteps sessions w) := by
  induction sessions generalizing w with
  | nil => exact refl dirs w
  | cons session sessions ih =>
    have hrun : Explains dirs w (session.after w) (session.steps w) :=
      run (hcompilers session List.mem_cons_self) hroot hdirs
        (hsessions session List.mem_cons_self) session.memory
    have hrest := ih (fun other hother => hcompilers other (List.mem_cons_of_mem _ hother))
      ((hrun.agreesOff.isDirectory_eq root).trans hroot)
      (fun other hother => (hdirs other hother).agree hrun.agreesOff)
      (fun other hother => hsessions other (List.mem_cons_of_mem _ hother))
    exact hrun.trans hrest

end Explains

/-- After any history of runs over fixtures below a root, the same fixtures are found, everything
but their snapshots is as it was, and each snapshot holds the text that the compiler gave in the
last step that recorded it, or is as it was if there is none. No other step changes anything, and
neither does a run in assert mode. The steps are those of the fixtures of the runs, in order, and end
as the runs say that they do. -/
theorem snapshots_after_history (hnamed : w.tree.WellNamed)
    (hdiscover : discover? w root = some dirs)
    (hcompilers : ∀ session ∈ sessions, session.suite.compiler.LeavesTree)
    (hsessions : ∀ session ∈ sessions, ∀ dir ∈ session.dirs, dir ∈ dirs) :
    let final := Session.afterAll sessions w
    let steps := Session.allSteps sessions w
    discover? final root = some dirs ∧
      AgreesOff (placesOf w dirs) w final ∧
      (∀ path, w.place path ∉ placesOf w dirs → final.node? path = w.node? path) ∧
      (∀ dir ∈ dirs,
        match lastRecording dir steps with
        | some last => ∃ text, last.produced = some text ∧
            final.node? dir.snapshotPath = some (.file (Utf8.bytesOf text))
        | none => final.node? dir.snapshotPath = w.node? dir.snapshotPath) ∧
      (∀ step ∈ steps, step.outcome.result ≠ .ok .recorded → step.after = step.before) ∧
      (∀ session ∈ sessions, session.suite.mode = .assert → ∀ v, session.after v = v) ∧
      steps.map (fun step => (step.dir, step.outcome)) = Session.allResults sessions w := by
  intro final steps
  have hexplains : Explains dirs w final steps :=
    Explains.history hcompilers (isDirectory_of_discover? hdiscover)
      (isBelow_of_discover? hnamed hdiscover) hsessions
  refine ⟨?_, hexplains.agreesOff, fun path => hexplains.agreesOff.node?_eq, fun dir hdir => ?_,
    hexplains.unchanged, fun session hsession hmode v => ?_, Session.map_allSteps sessions w⟩
  · rw [discover?_eq hexplains.agreesOff hnamed (hexplains.wellNamed hnamed), hdiscover]
  · cases hlast : lastRecording dir steps with
    | some last => exact hexplains.recorded dir hdir last hlast
    | none => exact hexplains.unrecorded dir hdir hlast
  · exact Suite.run_assert (hcompilers session hsession) hmode session.dirs v session.memory

/-- A history of the small suite: a run in assert mode over all fixtures, and then one in record
mode over the first. -/
def Session.samples : List Session :=
  [⟨Unit, .sample .assert, (), FixtureDir.samples⟩, ⟨Unit, .sample .record, (), [⟨"a", "suite/a"⟩]⟩]

theorem snapshots_after_history_samples :
    let final := Session.afterAll Session.samples .sample
    Workspace.sample.tree.WellNamed ∧ discover? .sample "suite" = some FixtureDir.samples ∧
      (∀ session ∈ Session.samples, session.suite.compiler.LeavesTree) ∧
      (∀ session ∈ Session.samples, ∀ dir ∈ session.dirs, dir ∈ FixtureDir.samples) ∧
      discover? final "suite" = some FixtureDir.samples ∧
      final.node? "suite/a/output.js" = some (.file (Utf8.bytesOf "a")) := by
  intro final
  have hcompilers : ∀ session ∈ Session.samples, session.suite.compiler.LeavesTree := by
    simp [Session.samples, (Suite.isFunction_sample _).leavesTree]
  have hsessions : ∀ session ∈ Session.samples, ∀ dir ∈ session.dirs, dir ∈ FixtureDir.samples := by
    simp [Session.samples, FixtureDir.samples]
  obtain ⟨hfound, -, -, hsnapshots, -, hasserted, -⟩ :=
    snapshots_after_history wellNamed_sample discover?_sample hcompilers hsessions
  refine ⟨wellNamed_sample, discover?_sample, hcompilers, hsessions, hfound, ?_⟩
  -- The first run leaves the tree as it is, so the second one starts from it.
  have hfirst := hasserted _ List.mem_cons_self rfl .sample
  have hlast : lastRecording ⟨"a", "suite/a"⟩ (Session.allSteps Session.samples .sample) =
      some (Suite.step (.sample .record) ⟨"a", "suite/a"⟩ (.sample, ())) := by
    rw [Session.samples, Session.allSteps, hfirst, lastRecording_append, Session.allSteps,
      Session.allSteps, List.append_nil, Session.steps, Suite.steps, Suite.steps,
      lastRecording_singleton, if_pos ⟨rfl, Suite.recorded_sample⟩, Option.some_or]
  have hsnapshot := hsnapshots ⟨"a", "suite/a"⟩ (by decide)
  rw [hlast] at hsnapshot
  obtain ⟨text, htext, hnode⟩ := hsnapshot
  have hattempt := Suite.attempt_sample .record
  simp only [Suite.step, hattempt, Except.toOption, Option.some.injEq] at htext
  subst htext
  exact hnode

end SnapshotSuite
