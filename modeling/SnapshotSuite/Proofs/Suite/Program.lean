import SnapshotSuite.Proofs.Suite.Step
import SnapshotSuite.Proofs.Text.Utf8
import SnapshotSuite.Proofs.Toolbox.Reading

/-!
# What a program writes is what the snapshot holds

A call of a program gives a text exactly if it starts, says that it succeeded and writes UTF-8; the
text then has the bytes that were written. Every other end of the call is a failure of the compiler,
with the status before the output, and leaves the snapshot alone. So the bytes that pass through the
text on their way to the snapshot are those of the standard output, none added and none lost.
-/

namespace SnapshotSuite

open Workspace

/-! ### Ends of a call -/

namespace Command

variable {program text : String} {output : ChildOutput} {child : Child} {w : Workspace}

lemma accept_of_status_ne (h : output.status ≠ .code 0) :
    accept program output =
      .error (.failed program output.status.text (Utf8.lossyText output.stderr)) := by
  simp [accept, ExitStatus.isSuccess, h]

lemma accept_of_not_isText (h : output.status = .code 0) (htext : ¬Utf8.IsText output.stdout) :
    accept program output = .error (.notText program) := by
  simp [accept, ExitStatus.isSuccess, h, Utf8.text?_eq_none_iff.mpr htext]

/-- An output is accepted exactly if the program succeeded and wrote the bytes of the text. -/
lemma accept_eq_ok_iff :
    accept program output = .ok text ↔
      output.status = .code 0 ∧ Utf8.bytesOf text = output.stdout := by
  by_cases hstatus : output.status = .code 0
  · cases htext : Utf8.text? output.stdout with
    | none =>
      have hnone := Utf8.text?_eq_none_iff.mp htext
      rw [accept_of_not_isText hstatus hnone]
      simpa [hstatus] using fun h => hnone ⟨text, h⟩
    | some written =>
      rw [← Utf8.text?_eq_some_iff, htext, Option.some.injEq]
      simp [accept, ExitStatus.isSuccess, hstatus, htext]
  · simp [accept_of_status_ne hstatus, hstatus]

variable {command : Command} {configPath input : Path} {configuration : Configuration}
  {cause : AccessError} {after : Workspace}

lemma compiler_of_error
    (h : child (command.invocation input configPath configuration) w = .error cause) :
    (command.compiler child configPath input configuration (w, ())).1 =
      .error (.notStarted command.program cause) := by
  simp [compiler, transform, h]

lemma compiler_of_ok
    (h : child (command.invocation input configPath configuration) w = .ok (output, after)) :
    (command.compiler child configPath input configuration (w, ())).1 =
      accept command.program output := by
  simp [compiler, transform, h]

/-- The compiler gives a text exactly if the program was started, succeeded and wrote the bytes of
that text. -/
lemma compiler_eq_ok_iff (hchild : child.LeavesTree command.program) :
    (command.compiler child configPath input configuration (w, ())).1 = .ok text ↔
      ∃ output, child (command.invocation input configPath configuration) w = .ok (output, w) ∧
        output.status = .code 0 ∧ Utf8.bytesOf text = output.stdout := by
  cases hcall : child (command.invocation input configPath configuration) w with
  | error cause => simp [compiler_of_error hcall]
  | ok result =>
    obtain ⟨output, after⟩ := result
    obtain rfl := hchild _ _ _ _ rfl hcall
    rw [compiler_of_ok hcall, accept_eq_ok_iff]
    simp

end Command

namespace Suite

/-- For a fixture that can be loaded, whatever the program does: in record mode it is recorded
exactly if the program was started, succeeded and wrote UTF-8 that can be stored, and the snapshot
then holds the bytes that were written. In assert mode it matches exactly if the snapshot holds
these bytes. A program that is not started, one that does not succeed, whatever it wrote, and one
that succeeds without writing UTF-8 end in their own failures, and nothing is changed. -/
theorem runFixture_of_program {child : Child} (command : Command)
    (hchild : child.LeavesTree command.program) (configPath : Path) (plugin : Plugin) (mode : Mode)
    {w : Workspace} {dir : FixtureDir} {fixture : Fixture}
    (hload : Fixture.load w dir = .ok fixture) :
    let configuration := plugin.configure fixture.extension fixture.host fixture.payload
    let started := child
      { program := command.program
        args := command.expand fixture.inputPath configPath
        configPath := configPath
        configText := configuration.text } w
    let suite : Suite Unit := ⟨plugin, command.compiler child configPath, mode⟩
    let ended := (suite.runFixture dir (w, ())).1.result
    let after := (suite.runFixture dir (w, ())).2.1
    (mode = .record → (ended = .ok .recorded ↔
        ∃ output, started = .ok (output, w) ∧ output.status = .code 0 ∧
          Utf8.IsText output.stdout ∧ w.writeBytes dir.snapshotPath output.stdout = .ok after ∧
          after.node? dir.snapshotPath = some (.file output.stdout))) ∧
      (mode = .assert → (ended = .ok .matched ↔
        ∃ output, started = .ok (output, w) ∧ output.status = .code 0 ∧
          Utf8.IsText output.stdout ∧
          w.node? dir.snapshotPath = some (.file output.stdout))) ∧
      (∀ cause, started = .error cause →
        ended = .error (.compiler (.notStarted command.program cause)) ∧ after = w) ∧
      ∀ output, started = .ok (output, w) →
        (output.status ≠ .code 0 →
          ended = .error (.compiler (.failed command.program output.status.text
            (Utf8.lossyText output.stderr))) ∧ after = w) ∧
        (output.status = .code 0 → ¬Utf8.IsText output.stdout →
          ended = .error (.compiler (.notText command.program)) ∧ after = w) := by
  intro configuration started suite ended after
  have hcompiler : suite.compiler.LeavesTree :=
    Command.leavesTree_compiler hchild configPath
  have hfailure : ∀ failure,
      (command.compiler child configPath fixture.inputPath configuration (w, ())).1 =
        .error failure → ended = .error (.compiler failure) ∧ after = w := by
    intro failure hanswer
    obtain ⟨houtcome, hafter⟩ := runFixture_of_failure hcompiler hload hanswer
    exact ⟨congrArg Outcome.result houtcome, hafter⟩
  have hreconciled : ∀ text,
      (command.compiler child configPath fixture.inputPath configuration (w, ())).1 = .ok text →
        (ended, after) = reconcile mode w dir.snapshotPath text := by
    intro text hanswer
    obtain ⟨houtcome, hafter⟩ := runFixture_of_answer hcompiler hload hanswer
    exact Prod.ext (congrArg Outcome.result houtcome) hafter
  -- A fixture that passes has the text that was written behind it.
  have hpassed : ∀ reconciled, ended = .ok reconciled → ∃ text output,
      started = .ok (output, w) ∧ output.status = .code 0 ∧ Utf8.bytesOf text = output.stdout ∧
        (ended, after) = reconcile mode w dir.snapshotPath text := by
    intro reconciled hended
    cases hanswer :
        (command.compiler child configPath fixture.inputPath configuration (w, ())).1 with
    | error failure => cases hended.symm.trans (hfailure failure hanswer).1
    | ok text =>
      obtain ⟨output, hstarted, hstatus, hbytes⟩ := (Command.compiler_eq_ok_iff hchild).mp hanswer
      exact ⟨text, output, hstarted, hstatus, hbytes, hreconciled text hanswer⟩
  refine ⟨?_, ?_, fun cause hstarted => hfailure _ (Command.compiler_of_error hstarted),
    fun output hstarted => ⟨fun hstatus => hfailure _ ?_, fun hstatus htext => hfailure _ ?_⟩⟩
  · rintro rfl
    constructor
    · intro hended
      obtain ⟨text, output, hstarted, hstatus, hbytes, hwrite⟩ := hpassed _ hended
      rw [hended, eq_comm, reconcile_record_eq_ok_iff, hbytes] at hwrite
      exact ⟨output, hstarted, hstatus, ⟨text, hbytes⟩, hwrite, node?_of_writeBytes hwrite⟩
    · rintro ⟨output, hstarted, hstatus, ⟨text, hbytes⟩, hwrite, -⟩
      have hanswer := (Command.compiler_eq_ok_iff hchild).mpr ⟨output, hstarted, hstatus, hbytes⟩
      rw [← hbytes, ← reconcile_record_eq_ok_iff, ← hreconciled text hanswer] at hwrite
      exact congrArg Prod.fst hwrite
  · rintro rfl
    constructor
    · intro hended
      obtain ⟨text, output, hstarted, hstatus, hbytes, hcompare⟩ := hpassed _ hended
      have hmatched := congrArg Prod.fst hcompare
      rw [hended, eq_comm, reconcile_assert, compareSnapshot_eq_matched_iff, hbytes] at hmatched
      exact ⟨output, hstarted, hstatus, ⟨text, hbytes⟩, hmatched⟩
    · rintro ⟨output, hstarted, hstatus, ⟨text, hbytes⟩, hstored⟩
      have hanswer := (Command.compiler_eq_ok_iff hchild).mpr ⟨output, hstarted, hstatus, hbytes⟩
      have hcompare := congrArg Prod.fst (hreconciled text hanswer)
      rw [reconcile_assert] at hcompare
      rw [← hbytes, ← compareSnapshot_eq_matched_iff] at hstored
      exact hcompare.trans hstored
  · rw [Command.compiler_of_ok hstarted, Command.accept_of_status_ne hstatus]
  · rw [Command.compiler_of_ok hstarted, Command.accept_of_not_isText hstatus htext]

/-- The small suite with a command whose program is given. -/
def sampleOf (program : String) (child : Child) : Suite Unit where
  plugin := ⟨"plugin.wasm"⟩
  compiler := Command.compiler ⟨program, [Command.inputPlaceholder]⟩ child "/tmp/settings.json"
  mode := .record

/-- `cat` leaves the tree alone, and what it makes of the first input can be recorded. -/
lemma recorded_cat :
    ((sampleOf "cat" (Toolbox.child [])).runFixture ⟨"a", "suite/a"⟩ (.sample, ())).1.result =
      .ok .recorded := by
  have hcompiler : (sampleOf "cat" (Toolbox.child [])).compiler.LeavesTree :=
    Command.leavesTree_compiler (Toolbox.leavesTree_child [] (by decide)) _
  have hanswer : ((sampleOf "cat" (Toolbox.child [])).compiler "suite/a/input.js"
      (Plugin.configure ⟨"plugin.wasm"⟩ ".js" none none) (.sample, ())).1 = .ok "a" := by
    decide +kernel
  rw [(runFixture_of_answer hcompiler load_sample hanswer).1]
  decide +kernel

/-- A carriage return and a final line feed reach the snapshot, a byte that is no UTF-8 does not,
and a signal counts before the output. What `cat` prints reaches the snapshot too. -/
theorem runFixture_of_program_samples :
    let dir : FixtureDir := ⟨"a", "suite/a"⟩
    let ended := fun output =>
      (sampleOf "swc" (Child.leaving output)).runFixture dir (.sample, ())
    Fixture.load .sample dir = .ok ⟨dir, "suite/a/input.js", ".js", none, none⟩ ∧
      (∀ output, (Child.leaving output).LeavesTree "swc") ∧
      (ended ⟨.code 0, [0x61, 0x0D, 0x0A], [0xFF]⟩).2.1.node? "suite/a/output.js" =
        some (.file [0x61, 0x0D, 0x0A]) ∧
      (ended ⟨.code 0, [0x61, 0xFF], []⟩).1.result = .error (.compiler (.notText "swc")) ∧
      (ended ⟨.signal 11 true, [0x61, 0xFF], [0xFF]⟩).1.result =
        .error (.compiler (.failed "swc" "signal: 11 (SIGSEGV) (core dumped)" "\uFFFD")) ∧
      (Toolbox.child []).LeavesTree "cat" ∧
      ((sampleOf "cat" (Toolbox.child [])).runFixture dir (.sample, ())).2.1.node?
        "suite/a/output.js" = some (.file [0x61]) := by
  intro dir ended
  have hends := fun output => runFixture_of_program ⟨"swc", [Command.inputPlaceholder]⟩
    (Child.leavesTree_leaving output "swc") "/tmp/settings.json" ⟨"plugin.wasm"⟩ .record load_sample
  have hcat : (Toolbox.child []).LeavesTree "cat" := Toolbox.leavesTree_child [] (by decide)
  refine ⟨load_sample, (Child.leavesTree_leaving · "swc"), ?_, ?_, ?_, hcat, ?_⟩
  · have hrecorded : (ended ⟨.code 0, [0x61, 0x0D, 0x0A], [0xFF]⟩).1.result = .ok .recorded := by
      decide +kernel
    obtain ⟨output, houtput, -, -, -, hnode⟩ := ((hends _).1 rfl).mp hrecorded
    cases houtput
    exact hnode
  · have hbytes : ¬Utf8.IsText [0x61, 0xFF] := Utf8.text?_eq_none_iff.mp (by decide +kernel)
    exact (((hends _).2.2.2 _ rfl).2 rfl hbytes).1
  · have hstderr : Utf8.lossyText [0xFF] = "\uFFFD" := by decide +kernel
    rw [← hstderr]
    exact (((hends ⟨.signal 11 true, [0x61, 0xFF], [0xFF]⟩).2.2.2 _ rfl).1 (by decide)).1
  · have hprinted : (Toolbox.child [] (Command.invocation ⟨"cat", [Command.inputPlaceholder]⟩
        "suite/a/input.js" "/tmp/settings.json" (Plugin.configure ⟨"plugin.wasm"⟩ ".js" none none))
        .sample).map Prod.fst = .ok ⟨.code 0, [0x61], []⟩ := by
      decide +kernel
    obtain ⟨output, houtput, -, -, -, hnode⟩ :=
      ((runFixture_of_program ⟨"cat", [Command.inputPlaceholder]⟩ hcat "/tmp/settings.json"
        ⟨"plugin.wasm"⟩ .record load_sample).1 rfl).mp recorded_cat
    obtain rfl := Except.ok.inj ((congrArg (Except.map Prod.fst) houtput).symm.trans hprinted)
    exact hnode

end Suite

end SnapshotSuite
