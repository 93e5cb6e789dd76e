import Mathlib.Tactic.SplitIfs
import SnapshotSuite.Proofs.Compiler.Frame
import SnapshotSuite.Toolbox.Child

/-!
# Tools that only read and print

A program begins with nothing to read and two sinks. As long as no open file leads to a file that can
be written, neither printing nor opening a file to be read changes the tree, and neither opens a file
that can be written. Jobs that are put together from these leave the tree alone, and so do the tools
that do nothing else.
-/

namespace SnapshotSuite

namespace Toolbox

/-! ### Worlds without a file to write to -/

namespace World

variable {world after : World} {file : OpenFile} {stream : Stream} {process : Process}
  {index : Nat} {place : Location} {path : Octets} {bs : Bytes} {share : Bytes → Nat}

/-- No open file that can be written leads into a file of the tree. -/
def WritesNoFile (world : World) : Prop :=
  ∀ (index : Nat) (file : OpenFile), world.files[index]? = some file → file.isWritable = true →
    ∀ place offset, file.stream ≠ .file place offset

/-- What a world without a file to write to becomes has the same tree and no file to write to. -/
def Keeps (before after : World) : Prop :=
  before.WritesNoFile → after.tree = before.tree ∧ after.WritesNoFile

lemma Keeps.refl (world : World) : Keeps world world :=
  fun hworld => ⟨rfl, hworld⟩

lemma Keeps.trans {between : World} (h : Keeps world between) (h' : Keeps between after) :
    Keeps world after := by
  intro hworld
  obtain ⟨htree, hbetween⟩ := h hworld
  obtain ⟨htree', hafter⟩ := h' hbetween
  exact ⟨htree'.trans htree, hafter⟩

lemma keeps_add (h : file.isWritable = true → ∀ place offset, file.stream ≠ .file place offset) :
    Keeps world (world.add file).2 := by
  refine fun hworld => ⟨rfl, fun i other hother => ?_⟩
  rw [add, Array.getElem?_push] at hother
  split_ifs at hother with hi
  · obtain rfl := Option.some.inj hother
    exact h
  · exact hworld i other hother

/-- An open file may come to lead elsewhere, but into a file of the tree only if it is not writable. -/
lemma keeps_update (h : ∀ file, world.files[index]? = some file → file.isWritable = true →
    ∀ place offset, stream ≠ .file place offset) : Keeps world (world.update index stream) := by
  refine fun hworld => ⟨rfl, fun i other hother => ?_⟩
  rw [update, Array.getElem?_modify] at hother
  split_ifs at hother with hi
  · subst hi
    obtain ⟨file, hfile, rfl⟩ := Option.map_eq_some_iff.mp hother
    exact h file hfile
  · exact hworld i other hother

lemma keeps_breaking (world : World) (index : Nat) : Keeps world (world.breaking index) := by
  unfold breaking
  split
  · exact keeps_update fun _ _ _ _ _ h => nomatch h
  · exact .refl world

/-- What is written goes to a sink or nowhere. -/
lemma keeps_append (h : world.append index bs = .ok after) : Keeps world after := by
  intro hworld
  unfold append at h
  split at h
  · cases h
  next file hfile =>
  by_cases hwritable : file.isWritable = true
  · rw [hwritable, Bool.not_true, if_neg Bool.false_ne_true] at h
    split at h
    · exact Except.ok.inj h ▸ Keeps.refl world hworld
    · exact Except.ok.inj h ▸ Keeps.refl world hworld
    · exact Except.ok.inj h ▸ Keeps.refl world hworld
    · split at h
      · exact Except.ok.inj h ▸ keeps_update (fun _ _ _ _ _ h => nomatch h) hworld
      · cases h
    · next place offset hstream =>
      exact absurd hstream (hworld index file hfile hwritable place offset)
  · rw [Bool.not_eq_true] at hwritable
    rw [hwritable, Bool.not_false, if_pos rfl] at h
    cases h

lemma keeps_consume {taken : Bytes} (h : world.consume index share = .ok (taken, after)) :
    Keeps world after := by
  intro hworld
  unfold consume at h
  split at h
  · cases h
  · next file hfile =>
    split_ifs at h
    split at h
    · cases h
      exact ⟨rfl, hworld⟩
    · cases h
      exact ⟨rfl, hworld⟩
    · cases h
      exact keeps_update (fun _ _ _ _ _ h => nomatch h) hworld
    · next place offset hstream =>
      cases h
      refine keeps_update (fun other hother hwritable => ?_) hworld
      obtain rfl : file = other := Option.some.inj (hfile.symm.trans hother)
      exact absurd hstream (hworld index file hfile hwritable place offset)
    · cases h

lemma keeps_openNode (h : world.openNode .reading place = .ok (index, after)) :
    Keeps world after := by
  unfold openNode at h
  split at h
  · cases h
    exact keeps_add (by simp)
  · cases h
    exact keeps_add (by simp)
  · cases h

/-- To open a file to be read is no way to change the tree. -/
lemma keeps_openPath (h : world.openPath process .reading path = .ok (index, after)) :
    Keeps world after := by
  unfold openPath at h
  dsimp only at h
  split at h
  · cases h
    exact keeps_add (by simp)
  · split at h
    · split at h
      · cases h
      · split at h
        · exact keeps_openNode h
        · exact keeps_openNode h
        · cases h
          exact .refl world
    · split at h
      · exact keeps_openNode h
      · cases h

end World

/-! ### Jobs that leave the tree alone -/

/-- The job changes no file as long as no open file leads to one that can be written, and opens none
that can. -/
def Job.KeepsTree {α : Type} (job : Job α) : Prop :=
  ∀ process world, World.Keeps world (job process world).2

namespace Job

variable {α β : Type} {job : Job α} {next : α → Job β}

lemma keepsTree_pure (a : α) : KeepsTree (pure a) :=
  fun _ => World.Keeps.refl

lemma keepsTree_bind (hjob : job.KeepsTree) (hnext : ∀ a, (next a).KeepsTree) :
    (job >>= next).KeepsTree :=
  fun process world => (hjob process world).trans (hnext _ process _)

lemma keepsTree_read : KeepsTree (read : Job Process) :=
  fun _ => World.Keeps.refl

lemma keepsTree_get : KeepsTree (get : Job World) :=
  fun _ => World.Keeps.refl

lemma keepsTree_modify {change : World → World} (h : ∀ world, World.Keeps world (change world)) :
    KeepsTree (modify change) :=
  fun _ => h

lemma keepsTree_attempt {call : World → Except SystemError (α × World)}
    (h : ∀ world a after, call world = .ok (a, after) → World.Keeps world after) :
    KeepsTree (attempt call) := by
  intro process world
  change World.Keeps world (((attempt call).run process).run world).2
  have hget : (ReaderT.run (get : Job World) process).run world = pure (world, world) := rfl
  rw [attempt, ReaderT.run_bind, StateT.run_bind, hget, pure_bind]
  cases hcall : call world with
  | error error => exact .refl world
  | ok result => exact h world _ _ hcall

/-- A loop leaves the tree alone if each of its steps does. -/
lemma keepsTree_foldlM {step : β → α → Job β} (h : ∀ b a, (step b a).KeepsTree) (as : List α)
    (b : β) : (as.foldlM step b).KeepsTree := by
  induction as generalizing b with
  | nil => exact keepsTree_pure b
  | cons a as ih =>
    rw [List.foldlM_cons]
    exact keepsTree_bind (h b a) ih

lemma keepsTree_write (descriptor : Nat) (bs : Bytes) : (write descriptor bs).KeepsTree := by
  refine keepsTree_bind keepsTree_read fun process => ?_
  cases process.descriptors.lookup descriptor with
  | none => exact keepsTree_pure _
  | some index =>
    refine keepsTree_bind (keepsTree_attempt fun world a after hcall => ?_) fun result => ?_
    · cases happend : world.append index bs with
      | error error =>
        rw [happend] at hcall
        cases hcall
      | ok written =>
        rw [happend] at hcall
        cases hcall
        exact World.keeps_append happend
    · dsimp only
      split
      · exact keepsTree_bind (keepsTree_modify fun world => World.keeps_breaking world index)
          fun _ => keepsTree_pure _
      · exact keepsTree_pure _

lemma keepsTree_openFile? (descriptor : Nat) : (openFile? descriptor).KeepsTree :=
  keepsTree_bind keepsTree_get fun _ => keepsTree_bind keepsTree_read fun _ => keepsTree_pure _

/-- Reading the file at a path leaves the tree alone if what is done with the open file does. -/
lemma keepsTree_withInput {next : Nat → Job (Except SystemError α)}
    (h : ∀ index, (next index).KeepsTree) (path : Octets) : (withInput path next).KeepsTree := by
  unfold withInput
  split_ifs
  · refine keepsTree_bind keepsTree_read fun process => ?_
    cases process.descriptors.lookup 0 with
    | none => exact keepsTree_pure _
    | some index => exact h index
  · refine keepsTree_bind keepsTree_read fun process => ?_
    refine keepsTree_bind (keepsTree_attempt fun _ _ _ => World.keeps_openPath) fun opened => ?_
    cases opened with
    | error error => exact keepsTree_pure _
    | ok index => exact h index

lemma keepsTree_printBytes (bs : Bytes) : (printBytes bs).KeepsTree := by
  unfold printBytes
  split_ifs
  · refine keepsTree_bind (keepsTree_write 1 bs) fun result => ?_
    split
    · exact keepsTree_modify fun world hworld => ⟨rfl, hworld⟩
    · exact keepsTree_pure _
  · exact keepsTree_pure _

lemma keepsTree_print (s : Octets) : (print s).KeepsTree :=
  keepsTree_printBytes _

lemma keepsTree_complain (line : Octets) : (complain line).KeepsTree :=
  keepsTree_bind (keepsTree_write 2 _) fun _ => keepsTree_pure _

lemma keepsTree_complaining (code : Nat) (line : Octets) : (complaining code line).KeepsTree :=
  keepsTree_bind (keepsTree_complain line) fun _ => keepsTree_pure _

end Job

/-! ### Tools that leave the tree alone -/

/-- Whatever the tool is called by and called with, its job changes no file. -/
def Tool.KeepsTree (tool : Tool) : Prop :=
  ∀ name words, (tool name words).KeepsTree

open Job

lemma keepsTree_succeed : succeed.KeepsTree :=
  fun _ _ => keepsTree_pure _

lemma keepsTree_refuse : refuse.KeepsTree :=
  fun _ _ => keepsTree_pure _

lemma keepsTree_misused (code : Nat) (name complaint : Octets) :
    (misused code name complaint).KeepsTree :=
  keepsTree_bind (keepsTree_complain _) fun _ => keepsTree_complaining code _

lemma keepsTree_withArguments {run : Octets → Arguments → Job ExitStatus}
    (h : ∀ name arguments, (run name arguments).KeepsTree) (code : Nat) (stops : Bool)
    (known : List ToolOption) : (withArguments code stops known run).KeepsTree := by
  intro name words
  unfold withArguments
  split
  · exact h name _
  · exact keepsTree_misused code name _

lemma keepsTree_checkingOutput {tool : Tool} (h : tool.KeepsTree) :
    (checkingOutput tool).KeepsTree := by
  intro name words
  refine keepsTree_bind (keepsTree_modify fun world hworld => ⟨rfl, hworld⟩) fun _ => ?_
  refine keepsTree_bind (h name words) fun status => ?_
  refine keepsTree_bind keepsTree_get fun world => ?_
  cases world.loss? with
  | none => exact keepsTree_pure _
  | some error =>
    refine keepsTree_bind (keepsTree_modify fun world hworld => ⟨rfl, hworld⟩) fun _ => ?_
    refine keepsTree_bind keepsTree_read fun process => ?_
    split_ifs
    · exact keepsTree_pure _
    · exact keepsTree_bind (keepsTree_complain _) fun _ => keepsTree_pure _

lemma keepsTree_pwd : pwd.KeepsTree := by
  refine keepsTree_withArguments (fun name arguments => ?_) 1 false _
  have hline : (do printLine (← read).directoryPath; return .code 0 : Job ExitStatus).KeepsTree :=
    keepsTree_bind keepsTree_read fun process =>
      keepsTree_bind (keepsTree_print _) fun _ => keepsTree_pure _
  split_ifs
  · exact keepsTree_bind (keepsTree_complain _) fun _ => hline
  · exact hline

lemma keepsTree_echo : echo.KeepsTree := by
  intro name words
  unfold echo
  dsimp only
  split_ifs <;> exact keepsTree_bind (keepsTree_print _) fun _ => keepsTree_pure _

lemma keepsTree_printFile (name : Octets) (layout : Cat.Layout) (state : Cat.Position × Bool)
    (file : Octets) : (Cat.printFile name layout state file).KeepsTree := by
  refine keepsTree_bind (keepsTree_withInput (fun index => ?_) file) fun content => ?_
  · refine keepsTree_bind keepsTree_get fun world => ?_
    cases world.files[index]? with
    | none => exact keepsTree_pure _
    | some input =>
      refine keepsTree_bind keepsTree_get fun world => ?_
      refine keepsTree_bind (keepsTree_openFile? 1) fun output => ?_
      split_ifs
      · exact keepsTree_pure _
      · refine keepsTree_bind (keepsTree_attempt fun _ _ _ => World.keeps_consume) fun taken => ?_
        cases taken with
        | error error => exact keepsTree_pure _
        | ok bs => exact keepsTree_pure _
  · split
    · exact keepsTree_bind (keepsTree_printBytes _) fun _ => keepsTree_pure _
    · exact keepsTree_bind (keepsTree_complain _) fun _ => keepsTree_pure _
    · exact keepsTree_bind (keepsTree_complain _) fun _ => keepsTree_pure _

lemma keepsTree_cat : cat.KeepsTree := by
  refine keepsTree_withArguments (fun name arguments => ?_) 1 false _
  refine keepsTree_bind (keepsTree_openFile? 1) fun output => ?_
  cases output with
  | none => exact keepsTree_complaining 1 _
  | some output =>
    dsimp only
    generalize (if arguments.operands = [] then ["-"] else arguments.operands) = files
    refine keepsTree_bind (keepsTree_foldlM (keepsTree_printFile name _) files _) fun ended => ?_
    refine keepsTree_bind (keepsTree_openFile? 0) fun input => ?_
    split
    · exact keepsTree_complaining 1 _
    · exact keepsTree_pure _

/-! ### The programs that are such tools -/

/-- The names of some tools that only read and print. -/
def readingTools : List String :=
  ["cat", "echo", "false", "pwd", "true"]

/-- A tool that is in the table at every depth is there. -/
lemma tools_eq_some {name : Octets} {tool : Tool} (h : ∀ fuel, toolNamed? (toolsWithin fuel)
    (shell ⟨evaluate fuel, toolsWithin fuel⟩) name = some tool) : tools name = some tool := by
  obtain ⟨fuel, hfuel⟩ : ∃ fuel, maxDepth = fuel + 1 := ⟨39999, rfl⟩
  rw [tools, hfuel, toolsWithin]
  exact h fuel

/-- The tool of each of these names leaves the tree alone. -/
lemma exists_keepsTree {name : String} (h : name ∈ readingTools) :
    ∃ tool, tools (Octets.ofText name) = some tool ∧ tool.KeepsTree := by
  simp only [readingTools, List.mem_cons, List.not_mem_nil, or_false] at h
  obtain rfl | rfl | rfl | rfl | rfl := h
  · exact ⟨_, tools_eq_some fun _ => rfl, keepsTree_checkingOutput keepsTree_cat⟩
  · exact ⟨_, tools_eq_some fun _ => rfl, keepsTree_checkingOutput keepsTree_echo⟩
  · exact ⟨_, tools_eq_some fun _ => rfl, keepsTree_checkingOutput keepsTree_refuse⟩
  · exact ⟨_, tools_eq_some fun _ => rfl, keepsTree_checkingOutput keepsTree_pwd⟩
  · exact ⟨_, tools_eq_some fun _ => rfl, keepsTree_checkingOutput keepsTree_succeed⟩

/-- Such a name is not looked up in the tree. -/
lemma program_eq_ok {name : String} {tool : Tool} (h : name ∈ readingTools)
    (htool : tools (Octets.ofText name) = some tool) (process : Process) (world : World) :
    program process world name = .ok tool := by
  have hplain : name.toList.contains '/' = false := by
    simp only [readingTools, List.mem_cons, List.not_mem_nil, or_false] at h
    obtain rfl | rfl | rfl | rfl | rfl := h <;> rfl
  simp only [program, hplain, htool, Bool.false_eq_true, if_false]

/-- In the world in which a program begins, only the sinks can be written. -/
lemma writesNoFile_firstWorld (tree : Tree) : (firstWorld tree).WritesNoFile := by
  intro index file hfile hwritable place offset hstream
  have hmem : file ∈ (firstWorld tree).files := Array.mem_of_getElem? hfile
  simp only [firstWorld, List.mem_toArray, List.mem_cons, List.not_mem_nil, or_false] at hmem
  obtain rfl | rfl | rfl := hmem
  · cases hwritable
  · cases hstream
  · cases hstream

/-- A call that comes to an end has run the tool in the world in which a program begins. -/
lemma child_eq_ok {environment : List (String × String)} {call : Invocation} {w w' : Workspace}
    {output : ChildOutput} {tool : Tool}
    (htool : ∀ process world, program process world call.program = .ok tool)
    (h : child environment call w = .ok (output, w')) :
    ∃ name words, w' = { w with tree := left w.tree (tool name words
      (firstProcess environment w.cwd) (firstWorld (visible w.tree call))).2.tree call } := by
  unfold child at h
  by_cases hnul : ((call.program :: call.args).any fun word => word.toList.contains '\x00') = true
  · simp only [hnul, if_true] at h
    cases h
  · simp only [hnul, htool, Bool.false_eq_true, if_false] at h
    obtain ⟨-, rfl⟩ := Prod.mk.inj (Except.ok.inj h)
    exact ⟨_, _, rfl⟩

/-- The programs that only read and print leave the tree as it was before the call. -/
theorem leavesTree_child (environment : List (String × String)) {program : String}
    (h : program ∈ readingTools) : (child environment).LeavesTree program := by
  intro call w output w' hprogram hcall
  obtain ⟨tool, htool, hkeeps⟩ := exists_keepsTree h
  subst hprogram
  obtain ⟨name, words, rfl⟩ := child_eq_ok (program_eq_ok h htool) hcall
  obtain ⟨htree, -⟩ := hkeeps name words _ _ (writesNoFile_firstWorld (visible w.tree call))
  rw [htree, firstWorld, left, if_pos rfl]

end Toolbox

end SnapshotSuite
