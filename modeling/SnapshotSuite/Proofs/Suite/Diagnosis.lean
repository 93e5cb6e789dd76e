import SnapshotSuite.Proofs.Snapshot.Difference
import SnapshotSuite.Proofs.Snapshot.Reconcile
import SnapshotSuite.Proofs.Text.Utf8
import SnapshotSuite.Suite.Report

/-!
# What a reported mismatch shows

Outputs and snapshots are compared as bytes and shown as texts. A snapshot that is a text is shown as
it is, so a mismatch with it shows two texts that differ and ends in their first difference. In any
other snapshot the faults are shown as replacement characters, and one output is shown just like it:
the output that has those characters in those places.
-/

namespace SnapshotSuite

open Workspace

variable {w : Workspace} {path other : Path} {produced expected actual : String} {stored : Bytes}

/-- A mismatch can be told from its report: the texts that it carries differ, and whatever the
fixture, its block ends in their first difference. -/
structure Diagnosed (path : Path) (expected actual : String) : Prop where
  /-- The texts differ. -/
  differ : expected ≠ actual
  /-- The block ends in the first difference. -/
  shown : ∃ d, Difference.find? expected actual = some d ∧ d.IsFirst expected actual ∧
    ∀ outcome : Outcome, outcome.result = .error (.mismatch path expected actual) →
      ∃ front, outcome.block? = some (front ++ d.message ++ "\n")

/-- The block of texts that differ ends in their first difference. -/
lemma exists_mismatchBlock_eq {d : Difference} (name : String) (path : Path)
    (h : Difference.find? expected actual = some d) :
    ∃ front, mismatchBlock name path expected actual = front ++ d.message ++ "\n" := by
  have hline : differenceLine expected actual = d.message ++ "\n" := by rw [differenceLine, h]
  delta mismatchBlock
  rw [hline, ← String.append_assoc]
  exact ⟨_, rfl⟩

/-- Texts that differ are all that a diagnosis needs. -/
lemma diagnosed_iff : Diagnosed path expected actual ↔ expected ≠ actual := by
  refine ⟨Diagnosed.differ, fun hne => ⟨hne, ?_⟩⟩
  obtain ⟨d, hfound, hfirst⟩ := Difference.exists_find?_eq_some hne
  refine ⟨d, hfound, hfirst, fun outcome hresult => ?_⟩
  obtain ⟨front, hblock⟩ := exists_mismatchBlock_eq outcome.name path hfound
  exact ⟨front, by rw [Outcome.block?, hresult, ← hblock]⟩

/-- A mismatch carries the snapshot as it is shown, and the output. -/
lemma exists_stored_of_mismatch
    (h : (reconcile .assert w path produced).1 = .error (.mismatch other expected actual)) :
    ∃ stored, w.readBytes path = .ok stored ∧ stored ≠ Utf8.bytesOf produced ∧ other = path ∧
      expected = Utf8.lossyText stored ∧ actual = produced := by
  cases reconciles_iff.mpr h with
  | different hfile hread hstored => exact ⟨_, hread, hstored, rfl, rfl, rfl⟩

/-- A text is never shown like an output of other bytes. -/
lemma lossyText_ne_of_isText (h : stored ≠ Utf8.bytesOf produced) (htext : Utf8.IsText stored) :
    Utf8.lossyText stored ≠ produced := by
  obtain ⟨text, rfl⟩ := htext
  rw [Utf8.lossyText_bytesOf]
  exact fun heq => h (heq ▸ rfl)

/-- A mismatch can be told from its report unless the snapshot is no text and the output is just what
the snapshot is shown as. Every output without a replacement character can be told. -/
theorem mismatch_diagnosed_iff
    (h : (reconcile .assert w path produced).1 = .error (.mismatch other expected actual)) :
    ∃ stored, w.readBytes path = .ok stored ∧ stored ≠ Utf8.bytesOf produced ∧
      (Diagnosed other expected actual ↔
        ¬(¬Utf8.IsText stored ∧ Utf8.lossyText stored = produced)) ∧
      ('\uFFFD' ∉ produced.toList → Diagnosed other expected actual) := by
  obtain ⟨stored, hread, hstored, rfl, rfl, rfl⟩ := exists_stored_of_mismatch h
  rw [diagnosed_iff]
  refine ⟨stored, hread, hstored, ⟨fun hne hsame => hne hsame.2, fun hunlike hsame => ?_⟩, ?_⟩
  · have htext : Utf8.IsText stored := not_not.mp fun hfault => hunlike ⟨hfault, hsame⟩
    exact lossyText_ne_of_isText hstored htext hsame
  · intro hplain hsame
    by_cases htext : Utf8.IsText stored
    · exact lossyText_ne_of_isText hstored htext hsame
    · exact hplain (hsame ▸ Utf8.replacement_mem_lossyText htext)

/-- A workspace with one snapshot. -/
def Workspace.recorded (stored : Bytes) : Workspace where
  tree := ⟨[(["output.js"], .file stored)], []⟩
  cwd := []

/-- A snapshot of one byte that is no text differs from an output without a replacement character,
and from one with two. -/
theorem mismatch_diagnosed_iff_samples :
    Diagnosed "output.js" "\uFFFD" "x" ∧ Diagnosed "output.js" "\uFFFD" "\uFFFD\uFFFD" := by
  have hplain : (reconcile .assert (.recorded [0xFF]) "output.js" "x").1 =
      .error (.mismatch "output.js" "\uFFFD" "x") := by decide +kernel
  have htwice : (reconcile .assert (.recorded [0xFF]) "output.js" "\uFFFD\uFFFD").1 =
      .error (.mismatch "output.js" "\uFFFD" "\uFFFD\uFFFD") := by decide +kernel
  constructor
  · obtain ⟨-, -, -, -, hdiagnosed⟩ := mismatch_diagnosed_iff hplain
    exact hdiagnosed (by decide)
  · obtain ⟨stored, hread, -, hiff, -⟩ := mismatch_diagnosed_iff htwice
    obtain rfl : [0xFF] = stored := Except.ok.inj hread
    exact hiff.mpr fun hsame => absurd hsame.2 (by decide +kernel)

/-- The same snapshot is shown like an output of one replacement character: the mismatch carries
equal texts, and nothing in its report tells them apart. -/
theorem mismatch_not_diagnosed :
    (reconcile .assert (.recorded [0xFF]) "output.js" "\uFFFD").1 =
        .error (.mismatch "output.js" "\uFFFD" "\uFFFD") ∧
      ¬Diagnosed "output.js" "\uFFFD" "\uFFFD" ∧
      Difference.find? "\uFFFD" "\uFFFD" = none ∧ differenceLine "\uFFFD" "\uFFFD" = "" :=
  ⟨by decide +kernel, fun h => h.differ rfl, by decide, by decide⟩

end SnapshotSuite
