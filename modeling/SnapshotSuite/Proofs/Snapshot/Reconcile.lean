import SnapshotSuite.Proofs.Fixture.Discovery
import SnapshotSuite.Snapshot.Reconcile

/-!
# What reconciling does

Comparing reads the snapshot and nothing else; recording writes it whatever stood there. Whether
recording succeeds does not depend on what files there are, and it does succeed where comparing
finds a file. `Reconciles` lists the ways in which reconciling can end, each with what leads to it.
-/

namespace SnapshotSuite

open Workspace

variable {w w' : Workspace} {places : Set Location} {path : Path} {dir : FixtureDir}
  {produced : String} {mode : Mode} {result : Except FixtureError Reconciled}

/-- Comparing depends on what the path leads to. -/
lemma compareSnapshot_eq :
    compareSnapshot w path produced =
      match w.node? path with
      | some (.file stored) =>
        if stored = Utf8.bytesOf produced then .ok .matched
        else .error (.mismatch path (Utf8.lossyText stored) produced)
      | _ => .error (.missingSnapshot path) := by
  unfold compareSnapshot
  by_cases hfile : w.isFile path = true
  · obtain ⟨stored, hnode⟩ := isFile_iff.mp hfile
    simp [hfile, hnode, readBytes_eq_ok_iff.mpr hnode]
  · rw [if_neg hfile]
    split
    · next hnode => exact absurd (isFile_iff.mpr ⟨_, hnode⟩) hfile
    · rfl

/-- An output matches exactly if its bytes are those of the snapshot. -/
lemma compareSnapshot_eq_matched_iff :
    compareSnapshot w path produced = .ok .matched ↔
      w.node? path = some (.file (Utf8.bytesOf produced)) := by
  rw [compareSnapshot_eq]
  split
  · next stored hnode => split_ifs with hsame <;> simp_all
  · next hnone => simpa using fun h => hnone _ h

lemma reconcile_assert : reconcile .assert w path produced = (compareSnapshot w path produced, w) :=
  rfl

/-- Recording succeeds exactly if the file can be written, and then it has been. -/
lemma reconcile_record_eq_ok_iff :
    reconcile .record w path produced = (.ok .recorded, w') ↔
      w.writeBytes path (Utf8.bytesOf produced) = .ok w' := by
  unfold reconcile
  cases w.writeBytes path (Utf8.bytesOf produced) <;> simp

/-- Reconciling ends with an error and an unchanged workspace, with a match in assert mode, or with
a written snapshot in record mode. -/
lemma reconcile_cases (mode : Mode) (w : Workspace) (path : Path) (produced : String) :
    (∃ error, reconcile mode w path produced = (.error error, w)) ∨
      mode = .assert ∧ reconcile mode w path produced = (.ok .matched, w) ∨
      mode = .record ∧ ∃ w', w.writeBytes path (Utf8.bytesOf produced) = .ok w' ∧
        reconcile mode w path produced = (.ok .recorded, w') := by
  cases mode with
  | assert =>
    rw [reconcile_assert, compareSnapshot_eq]
    split
    · split_ifs <;> simp
    · simp
  | record =>
    cases hwrite : w.writeBytes path (Utf8.bytesOf produced) with
    | error cause => exact .inl ⟨.access path cause, by simp [reconcile, hwrite]⟩
    | ok w' => exact .inr (.inr ⟨rfl, w', rfl, reconcile_record_eq_ok_iff.mpr hwrite⟩)

/-- The ways in which reconciling an output with the snapshot at a path ends. -/
inductive Reconciles (w : Workspace) (path : Path) (produced : String) :
    Mode → Except FixtureError Reconciled → Prop where
  /-- The output was written. -/
  | recorded {w' : Workspace} (hwrite : w.writeBytes path (Utf8.bytesOf produced) = .ok w') :
    Reconciles w path produced .record (.ok .recorded)
  /-- The output cannot be written. -/
  | unwritable {cause : AccessError}
    (hwrite : w.writeBytes path (Utf8.bytesOf produced) = .error cause) :
    Reconciles w path produced .record (.error (.access path cause))
  /-- The snapshot has the bytes of the output. -/
  | matched (hfile : w.isFile path = true)
    (hread : w.readBytes path = .ok (Utf8.bytesOf produced)) :
    Reconciles w path produced .assert (.ok .matched)
  /-- The snapshot has other bytes. -/
  | different {stored : Bytes} (hfile : w.isFile path = true)
    (hread : w.readBytes path = .ok stored) (hstored : stored ≠ Utf8.bytesOf produced) :
    Reconciles w path produced .assert
      (.error (.mismatch path (Utf8.lossyText stored) produced))
  /-- There is no file where the snapshot should be. -/
  | missing (hfile : w.isFile path = false) :
    Reconciles w path produced .assert (.error (.missingSnapshot path))
  /-- The snapshot cannot be read. -/
  | unreadable {cause : AccessError} (hfile : w.isFile path = true)
    (hread : w.readBytes path = .error cause) :
    Reconciles w path produced .assert (.error (.access path cause))

/-- Reconciling ends in exactly one of these ways. -/
theorem reconciles_iff :
    Reconciles w path produced mode result ↔ (reconcile mode w path produced).1 = result := by
  constructor
  · intro h
    cases h with
    | recorded hwrite => simp [reconcile, hwrite]
    | unwritable hwrite => simp [reconcile, hwrite]
    | matched hfile hread => simp [reconcile, compareSnapshot, hfile, hread]
    | different hfile hread hstored => simp [reconcile, compareSnapshot, hfile, hread, hstored]
    | missing hfile => simp [reconcile, compareSnapshot, hfile]
    | unreadable hfile hread => simp [reconcile, compareSnapshot, hfile, hread]
  · rintro rfl
    cases mode with
    | record =>
      unfold reconcile
      cases hwrite : w.writeBytes path (Utf8.bytesOf produced) with
      | ok w' => exact .recorded hwrite
      | error cause => exact .unwritable hwrite
    | assert =>
      rw [reconcile_assert]
      unfold compareSnapshot
      cases hfile : w.isFile path with
      | false => exact .missing hfile
      | true =>
        cases hread : w.readBytes path with
        | error cause => exact .unreadable hfile hread
        | ok stored =>
          by_cases hstored : stored = Utf8.bytesOf produced
          · simpa [hstored] using Reconciles.matched hfile (hstored ▸ hread)
          · simpa [hstored] using Reconciles.different hfile hread hstored

/-- Whether a snapshot can be recorded does not depend on what files there are. -/
lemma reconcile_record_congr (hagrees : AgreesOff places w w')
    (hdir : w.isDirectory dir.path = true) :
    (reconcile .record w' dir.snapshotPath produced).1 =
      (reconcile .record w dir.snapshotPath produced).1 := by
  have htarget := hagrees.target_join_eq hdir isName_snapshot
  unfold reconcile writeBytes FixtureDir.snapshotPath
  rw [htarget]
  cases w.target (Path.join dir.path "output.js") <;> rfl

/-- A snapshot that is a file can be recorded anew. -/
lemma exists_writeBytes_of_isFile (hdir : w.isDirectory dir.path = true)
    (hfile : w.isFile dir.snapshotPath = true) (content : Bytes) :
    ∃ w', w.writeBytes dir.snapshotPath content = .ok w' := by
  have htarget := target_join_of_isFile hdir isName_snapshot hfile
  exact ⟨_, by simp only [writeBytes, FixtureDir.snapshotPath, htarget]; rfl⟩

end SnapshotSuite
