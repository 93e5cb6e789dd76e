import SnapshotSuite.Proofs.Compiler.Frame
import SnapshotSuite.Proofs.Fixture.Loading
import SnapshotSuite.Proofs.Snapshot.Reconcile
import SnapshotSuite.Suite.Execution

/-!
# Running one fixture

A fixture is run in two parts. The attempt loads it and calls the compiler; it writes nothing if the
compiler writes nothing. Reconciling then touches the snapshot of this fixture alone. For a compiler
that is a function of the path, the bytes of the input and the configuration the attempt is the same
in all workspaces that differ in snapshots only.
-/

namespace SnapshotSuite

open Workspace

/-- The compiler changes nothing in the tree, and what it answers for an input that can be read is
given by the path of the input, its bytes and the configuration. -/
structure Compiler.IsFunction {σ : Type} (compiler : Compiler σ)
    (answer : Path → Bytes → Configuration → Except CompilerFailure String) : Prop where
  leavesTree : compiler.LeavesTree
  eq_answer : ∀ input configuration w memory content, w.readBytes input = .ok content →
    (compiler input configuration (w, memory)).1 = answer input content configuration

/-- The compiler that gives back the text that it reads. -/
def Compiler.echo (σ : Type) : Compiler σ :=
  fun input _ state =>
    ((state.1.readText input).mapError CompilerFailure.notPrepared, state)

/-- What the echoing compiler answers. -/
def Compiler.echoAnswer (_ : Path) (content : Bytes) (_ : Configuration) :
    Except CompilerFailure String :=
  match Utf8.text? content with
  | some text => .ok text
  | none => .error (.notPrepared .notText)

lemma Compiler.isFunction_echo (σ : Type) :
    (Compiler.echo σ).IsFunction Compiler.echoAnswer where
  leavesTree _ _ _ _ := rfl
  eq_answer input configuration w memory content h := by
    rw [echo, echoAnswer, readText, h]
    cases htext : Utf8.text? content <;>
      simp [bind, Except.bind, htext, pure, Except.pure, throw, throwThe, MonadExceptOf.throw,
        Except.mapError]

namespace Suite

variable {σ : Type} {suite : Suite σ} {w w' : Workspace} {memory : σ}
  {dir : FixtureDir} {text : String} {error : FixtureError}
  {answer : Path → Bytes → Configuration → Except CompilerFailure String}

/-- What loading and compiling a fixture gives: the call of the compiler, if there is one, and the
text that it gives. -/
def attempt (suite : Suite σ) (dir : FixtureDir) (state : Workspace × σ) :
    Option Call × Except FixtureError String :=
  match Fixture.load state.1 dir with
  | .error error => (none, .error error)
  | .ok fixture =>
    let call := suite.call fixture
    (some call,
      (suite.compiler call.input call.configuration state).1.mapError FixtureError.compiler)

/-- A fixture that can be loaded makes its call. -/
lemma attempt_of_load_ok {fixture : Fixture} (h : Fixture.load w dir = .ok fixture) (memory : σ) :
    suite.attempt dir (w, memory) =
      (some (suite.call fixture),
        (suite.compiler (suite.call fixture).input (suite.call fixture).configuration
          (w, memory)).1.mapError FixtureError.compiler) := by
  unfold attempt
  simp only [h]

/-- A fixture that cannot be loaded makes no call and changes nothing. -/
lemma runFixture_of_load_error (h : Fixture.load w dir = .error error) (memory : σ) :
    suite.runFixture dir (w, memory) = (⟨dir.name, none, .error error⟩, w, memory) := by
  unfold runFixture
  simp [h]

/-- A fixture that can be loaded ends after its call, whatever the compiler does. -/
lemma exists_runFixture_of_load_ok {fixture : Fixture} (h : Fixture.load w dir = .ok fixture)
    (memory : σ) :
    ∃ result, (suite.runFixture dir (w, memory)).1 =
      ⟨dir.name, some (suite.call fixture), result⟩ := by
  unfold runFixture
  simp only [h]
  generalize suite.compiler _ _ (w, memory) = result
  obtain ⟨_ | _, after, rest⟩ := result
  · exact ⟨_, rfl⟩
  · exact ⟨_, rfl⟩

/-- An outcome has the name of its fixture. -/
lemma name_runFixture (dir : FixtureDir) (state : Workspace × σ) :
    (suite.runFixture dir state).1.name = dir.name := by
  obtain ⟨w, memory⟩ := state
  cases hload : Fixture.load w dir with
  | error error => rw [runFixture_of_load_error hload]
  | ok fixture =>
    obtain ⟨result, hresult⟩ := suite.exists_runFixture_of_load_ok hload memory
    rw [hresult]

/-! ### From the attempt to the outcome -/

/-- A fixture ends in the error of its attempt, or as its text is reconciled with the snapshot. -/
lemma runFixture_eq_attempt (hcompiler : suite.compiler.LeavesTree) (dir : FixtureDir)
    (w : Workspace) (memory : σ) :
    ((suite.runFixture dir (w, memory)).1, (suite.runFixture dir (w, memory)).2.1) =
      match (suite.attempt dir (w, memory)).2 with
      | .error error => (⟨dir.name, (suite.attempt dir (w, memory)).1, .error error⟩, w)
      | .ok text =>
        (⟨dir.name, (suite.attempt dir (w, memory)).1,
            (reconcile suite.mode w dir.snapshotPath text).1⟩,
          (reconcile suite.mode w dir.snapshotPath text).2) := by
  unfold runFixture attempt
  cases hload : Fixture.load w dir with
  | error cause => simp only [hload]
  | ok fixture =>
    have hleaves := hcompiler (suite.call fixture).input (suite.call fixture).configuration w memory
    simp only [hload]
    revert hleaves
    generalize suite.compiler _ _ (w, memory) = result
    obtain ⟨_ | _, after, rest⟩ := result
    · rintro rfl
      rfl
    · rintro rfl
      rfl

/-- A failed attempt is the outcome, and nothing is written. -/
lemma runFixture_of_attempt_error (hcompiler : suite.compiler.LeavesTree)
    (h : (suite.attempt dir (w, memory)).2 = .error error) :
    (suite.runFixture dir (w, memory)).1 =
        ⟨dir.name, (suite.attempt dir (w, memory)).1, .error error⟩ ∧
      (suite.runFixture dir (w, memory)).2.1 = w := by
  have hends := suite.runFixture_eq_attempt hcompiler dir w memory
  rw [h] at hends
  exact Prod.mk.inj hends

/-- A text is reconciled with the snapshot of the fixture. -/
lemma runFixture_of_attempt_ok (hcompiler : suite.compiler.LeavesTree)
    (h : (suite.attempt dir (w, memory)).2 = .ok text) :
    (suite.runFixture dir (w, memory)).1 =
        ⟨dir.name, (suite.attempt dir (w, memory)).1,
          (reconcile suite.mode w dir.snapshotPath text).1⟩ ∧
      (suite.runFixture dir (w, memory)).2.1 =
        (reconcile suite.mode w dir.snapshotPath text).2 := by
  have hends := suite.runFixture_eq_attempt hcompiler dir w memory
  rw [h] at hends
  exact Prod.mk.inj hends

/-- A failure of the compiler is the outcome, and nothing is written. -/
lemma runFixture_of_failure {fixture : Fixture} {failure : CompilerFailure}
    (hcompiler : suite.compiler.LeavesTree) (hload : Fixture.load w dir = .ok fixture)
    (hanswer : (suite.compiler (suite.call fixture).input (suite.call fixture).configuration
      (w, memory)).1 = .error failure) :
    (suite.runFixture dir (w, memory)).1 =
        ⟨dir.name, some (suite.call fixture), .error (.compiler failure)⟩ ∧
      (suite.runFixture dir (w, memory)).2.1 = w := by
  have hattempt : suite.attempt dir (w, memory) = _ := attempt_of_load_ok hload memory
  rw [hanswer, Except.mapError] at hattempt
  have hfailed := runFixture_of_attempt_error hcompiler (congrArg Prod.snd hattempt)
  rwa [hattempt] at hfailed

/-- A text of the compiler is reconciled with the snapshot. -/
lemma runFixture_of_answer {fixture : Fixture} (hcompiler : suite.compiler.LeavesTree)
    (hload : Fixture.load w dir = .ok fixture)
    (hanswer : (suite.compiler (suite.call fixture).input (suite.call fixture).configuration
      (w, memory)).1 = .ok text) :
    (suite.runFixture dir (w, memory)).1 =
        ⟨dir.name, some (suite.call fixture), (reconcile suite.mode w dir.snapshotPath text).1⟩ ∧
      (suite.runFixture dir (w, memory)).2.1 =
        (reconcile suite.mode w dir.snapshotPath text).2 := by
  have hattempt : suite.attempt dir (w, memory) = _ := attempt_of_load_ok hload memory
  rw [hanswer, Except.mapError] at hattempt
  have hpassed := runFixture_of_attempt_ok hcompiler (congrArg Prod.snd hattempt)
  rwa [hattempt] at hpassed

/-- The three ends of a fixture: an error that leaves everything as it was, a match in assert mode
that does so too, or in record mode a snapshot that holds the text of the compiler. -/
lemma runFixture_cases (hcompiler : suite.compiler.LeavesTree) (dir : FixtureDir) (w : Workspace)
    (memory : σ) :
    (∃ error, (suite.runFixture dir (w, memory)).1.result = .error error ∧
        (suite.runFixture dir (w, memory)).2.1 = w) ∨
      (suite.mode = .assert ∧ (suite.runFixture dir (w, memory)).1.result = .ok .matched ∧
        (suite.runFixture dir (w, memory)).2.1 = w) ∨
      (suite.mode = .record ∧ (suite.runFixture dir (w, memory)).1.result = .ok .recorded ∧
        ∃ text, (suite.attempt dir (w, memory)).2 = .ok text ∧
          w.writeBytes dir.snapshotPath (Utf8.bytesOf text) =
            .ok (suite.runFixture dir (w, memory)).2.1) := by
  cases hattempt : (suite.attempt dir (w, memory)).2 with
  | error error =>
    obtain ⟨houtcome, hafter⟩ := runFixture_of_attempt_error hcompiler hattempt
    exact .inl ⟨error, by rw [houtcome], hafter⟩
  | ok text =>
    obtain ⟨houtcome, hafter⟩ := runFixture_of_attempt_ok hcompiler hattempt
    rw [houtcome, hafter]
    rcases reconcile_cases suite.mode w dir.snapshotPath text with
      ⟨error, h⟩ | ⟨hmode, h⟩ | ⟨hmode, w', hwrite, h⟩
    · exact .inl ⟨error, by rw [h], by rw [h]⟩
    · exact .inr (.inl ⟨hmode, by rw [h], by rw [h]⟩)
    · exact .inr (.inr ⟨hmode, by rw [h], text, rfl, by rw [h, hwrite]⟩)

/-- Running a fixture changes its snapshot and nothing else. -/
lemma runFixture_agreesOff (hcompiler : suite.compiler.LeavesTree) (dir : FixtureDir)
    (w : Workspace) (memory : σ) :
    AgreesOff {w.place dir.snapshotPath} w (suite.runFixture dir (w, memory)).2.1 := by
  rcases runFixture_cases hcompiler dir w memory with
    ⟨_, -, hafter⟩ | ⟨-, -, hafter⟩ | ⟨-, -, _, -, hwrite⟩
  · rw [hafter]
    exact AgreesOff.refl _ w
  · rw [hafter]
    exact AgreesOff.refl _ w
  · exact agreesOff_of_writeBytes hwrite

lemma runFixture_wellNamed (hcompiler : suite.compiler.LeavesTree) (hnamed : w.tree.WellNamed) :
    (suite.runFixture dir (w, memory)).2.1.tree.WellNamed := by
  rcases runFixture_cases hcompiler dir w memory with
    ⟨_, -, hafter⟩ | ⟨-, -, hafter⟩ | ⟨-, -, _, -, hwrite⟩
  · rwa [hafter]
  · rwa [hafter]
  · exact wellNamed_of_writeBytes hnamed hwrite

/-- A fixture that is not recorded changes nothing. -/
lemma runFixture_of_ne_recorded (hcompiler : suite.compiler.LeavesTree)
    (hresult : (suite.runFixture dir (w, memory)).1.result ≠ .ok .recorded) :
    (suite.runFixture dir (w, memory)).2.1 = w := by
  rcases runFixture_cases hcompiler dir w memory with
    ⟨_, -, hafter⟩ | ⟨-, -, hafter⟩ | ⟨-, hrecorded, -⟩
  · exact hafter
  · exact hafter
  · exact absurd hrecorded hresult

/-- In assert mode nothing is written. -/
lemma runFixture_assert (hcompiler : suite.compiler.LeavesTree) (hmode : suite.mode = .assert) :
    (suite.runFixture dir (w, memory)).2.1 = w := by
  rcases runFixture_cases hcompiler dir w memory with
    ⟨_, -, hafter⟩ | ⟨-, -, hafter⟩ | ⟨hrecord, -⟩
  · exact hafter
  · exact hafter
  · rw [hmode] at hrecord
    cases hrecord

/-! ### Workspaces that differ in snapshots only -/

/-- The attempt does not see snapshots, nor what the compiler remembers. -/
lemma attempt_eq (hcompiler : suite.compiler.IsFunction answer)
    (hagrees : AgreesOff snapshotPlaces w w') (hnamed : w.tree.WellNamed)
    (hnamed' : w'.tree.WellNamed) (hdir : w.isDirectory dir.path = true) (memory memory' : σ) :
    suite.attempt dir (w', memory') = suite.attempt dir (w, memory) := by
  unfold attempt
  rw [Fixture.load_eq hagrees hnamed hnamed' hdir]
  cases hload : Fixture.load w dir with
  | error cause => rfl
  | ok fixture =>
    obtain ⟨content, hread, hplace⟩ := Fixture.exists_input_of_load hnamed hdir hload
    have hread' : w'.readBytes fixture.inputPath = .ok content := by
      rw [readBytes_eq_ok_iff, hagrees.node?_eq hplace]
      exact readBytes_eq_ok_iff.mp hread
    have hanswer :=
      hcompiler.eq_answer (suite.call fixture).input (suite.call fixture).configuration
    dsimp only
    rw [hanswer w memory content hread, hanswer w' memory' content hread']

/-! ### A small suite -/

/-- A suite that gives the texts of the inputs. -/
def sample (mode : Mode) : Suite Unit :=
  ⟨⟨"plugin.wasm"⟩, Compiler.echo Unit, mode⟩

lemma isFunction_sample (mode : Mode) : (sample mode).compiler.IsFunction Compiler.echoAnswer :=
  Compiler.isFunction_echo Unit

lemma inputName_sample : Fixture.inputName .sample "suite/a" = .ok "input.js" := by
  have hentries : Workspace.sample.entries "suite/a" = .ok ["input.js"] := by decide +kernel
  have hcandidates : ["input.js"].filter (fun name =>
      Workspace.sample.isFile (Path.join "suite/a" name) && Path.stem name == "input") =
        ["input.js"] := by
    decide +kernel
  simp [Fixture.inputName, hentries, Fixture.candidates, hcandidates, sortNames]

lemma load_sample :
    Fixture.load .sample ⟨"a", "suite/a"⟩ =
      .ok ⟨⟨"a", "suite/a"⟩, "suite/a/input.js", ".js", none, none⟩ := by
  have hhost : Workspace.sample.isFile (Path.join "suite/a" ".swcrc") = false := by decide +kernel
  have hpayload : Workspace.sample.isFile (Path.join "suite/a" "config.json") = false := by
    decide +kernel
  have hinput : Path.join "suite/a" "input.js" = "suite/a/input.js" := by decide +kernel
  have hextension : Fixture.dottedExtension "input.js" = ".js" := by decide +kernel
  simp [Fixture.load, inputName_sample, Fixture.readOptional, FixtureDir.hostPath,
    FixtureDir.payloadPath, hhost, hpayload, hinput, hextension, bind, Except.bind, pure,
    Except.pure]

lemma attempt_sample (mode : Mode) :
    ((sample mode).attempt ⟨"a", "suite/a"⟩ (.sample, ())).2 = .ok "a" := by
  have hread : Workspace.sample.readText "suite/a/input.js" = .ok "a" := by decide +kernel
  simp [attempt, load_sample, call, sample, Compiler.echo, hread, Except.mapError]

/-- The complete fixture of the small suite can be recorded. -/
lemma recorded_sample :
    ((sample .record).runFixture ⟨"a", "suite/a"⟩ (.sample, ())).1.result = .ok .recorded := by
  rw [(runFixture_of_attempt_ok (isFunction_sample _).leavesTree (attempt_sample .record)).1]
  decide +kernel

end Suite

lemma Fixture.load_sample_markup :
    load .sample ⟨"c", "suite/c"⟩ =
      .ok ⟨⟨"c", "suite/c"⟩, "suite/c/input.tsx", ".tsx", none, none⟩ := by
  have hentries : Workspace.sample.entries "suite/c" = .ok ["input.tsx", "output.js"] := by
    decide +kernel
  have hcandidates : ["input.tsx", "output.js"].filter (fun name =>
      Workspace.sample.isFile (Path.join "suite/c" name) && Path.stem name == "input") =
        ["input.tsx"] := by
    decide +kernel
  have hname : inputName .sample "suite/c" = .ok "input.tsx" := by
    simp [inputName, hentries, candidates, hcandidates, sortNames]
  have habsent : ∀ path, Workspace.sample.isFile path = false →
      readOptional .sample path = .ok none := by
    intro path h
    rw [readOptional, h]
    rfl
  exact load_eq_ok_iff.mpr ⟨rfl, ⟨_, hname, by decide +kernel, by decide +kernel⟩,
    habsent _ (by decide +kernel), habsent _ (by decide +kernel)⟩

lemma Fixture.load_sample_error :
    load .sample ⟨"b", "suite/b"⟩ = .error (.missingInput "suite/b") := by
  have hentries : Workspace.sample.entries "suite/b" = .ok [] := by decide +kernel
  have hname : inputName .sample "suite/b" = .error (.missingInput "suite/b") := by
    simp [inputName, hentries, candidates, sortNames]
  simp [load, hname, bind, Except.bind]

end SnapshotSuite
