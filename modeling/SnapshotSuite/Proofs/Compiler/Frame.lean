import Mathlib.Tactic.Lemma
import SnapshotSuite.Compiler.Command

/-!
# Compilers that leave the tree alone

A compiler sees the whole tree and could change it. One that runs a command leaves the tree as it is
if the program of that command does, whatever other programs would do.
-/

namespace SnapshotSuite

/-- The compiler changes neither files nor directories. What it answers may depend on anything. -/
def Compiler.LeavesTree {σ : Type} (compiler : Compiler σ) : Prop :=
  ∀ input configuration w memory, (compiler input configuration (w, memory)).2.1 = w

/-- A program of this name changes neither files nor directories. -/
def Child.LeavesTree (child : Child) (program : String) : Prop :=
  ∀ invocation w output w', invocation.program = program →
    child invocation w = .ok (output, w') → w' = w

/-- A command leaves the tree alone if its program does. -/
lemma Command.leavesTree_compiler {child : Child} {command : Command}
    (hchild : child.LeavesTree command.program) (configPath : Path) :
    (command.compiler child configPath).LeavesTree := by
  intro input configuration w memory
  unfold compiler transform
  cases hcall : child (command.invocation input configPath configuration) w with
  | error cause => simp [hcall]
  | ok result =>
    simp only [hcall]
    exact hchild _ _ _ _ rfl hcall

/-- A program that leaves the same behind whatever it is called for. -/
def Child.leaving (output : ChildOutput) : Child :=
  fun _ w => .ok (output, w)

lemma Child.leavesTree_leaving (output : ChildOutput) (program : String) :
    (leaving output).LeavesTree program := by
  intro invocation w other w' _ h
  exact (Prod.mk.inj (Except.ok.inj h)).2.symm

end SnapshotSuite
