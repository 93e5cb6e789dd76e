import SnapshotSuite.Proofs.Suite.Diagnosis
import SnapshotSuite.Proofs.Tree.Writing

/-!
# Reconciling is exact

Comparing takes bytes as they are: it matches the very bytes of the output and nothing else, and only
a mismatch is shown as text. Recording leaves the bytes of the output at the path, whatever stood
there, and everything else as it was; where the file cannot be written nothing changes. Two runs that
record over different contents end alike.
-/

namespace SnapshotSuite

open Workspace

variable {w w' : Workspace} {path : Path} {produced : String} {stored : Bytes}

/-- A text shows some bytes: it is the text that they write, or their lossy decoding if they write
none. -/
def Utf8.Shows (text : String) (bs : Bytes) : Prop :=
  bs = bytesOf text ∨ ¬IsText bs ∧ text = lossyText bs

/-- The lossy decoding of bytes shows them. -/
lemma Utf8.shows_lossyText (bs : Bytes) : Shows (lossyText bs) bs := by
  by_cases htext : IsText bs
  · obtain ⟨text, rfl⟩ := htext
    exact .inl (by rw [lossyText_bytesOf])
  · exact .inr ⟨htext, rfl⟩

/-- Comparing an output with the snapshot at a path is exact. -/
structure ComparesExactly (w : Workspace) (path : Path) (produced : String) : Prop where
  /-- Nothing changes. -/
  unchanged : (reconcile .assert w path produced).2 = w
  /-- The output matches exactly if the path leads to a file of its bytes. -/
  matched_iff : (reconcile .assert w path produced).1 = .ok .matched ↔
    w.node? path = some (.file (Utf8.bytesOf produced))
  /-- The snapshot is missing exactly if the path leads to no regular file. -/
  missing_iff : ∀ other, (reconcile .assert w path produced).1 = .error (.missingSnapshot other) ↔
    other = path ∧ w.isFile path = false
  /-- A file of other bytes is a mismatch, which carries the output and a text that shows the
  bytes. -/
  mismatch : ∀ stored, w.node? path = some (.file stored) → stored ≠ Utf8.bytesOf produced →
    ∃ expected, Utf8.Shows expected stored ∧
      (reconcile .assert w path produced).1 = .error (.mismatch path expected produced)

/-- Recording an output at a path is exact. -/
structure RecordsExactly (w : Workspace) (path : Path) (produced : String) : Prop where
  /-- The output is recorded exactly if a file can be written there. -/
  recorded_iff : (reconcile .record w path produced).1 = .ok .recorded ↔ w.Writable path
  /-- Otherwise the error names the path, and nothing changes. -/
  refused : ¬w.Writable path →
    ∃ cause, reconcile .record w path produced = (.error (.access path cause), w)
  /-- A recorded output leaves exactly its bytes at the path. -/
  stored : w.Writable path →
    (reconcile .record w path produced).2.node? path = some (.file (Utf8.bytesOf produced))
  /-- No other place changes, and no directory comes or goes. -/
  agrees : AgreesOff {w.place path} w (reconcile .record w path produced).2
  /-- Every path to another place leads to what it led to before. -/
  elsewhere : ∀ other, w.place other ≠ w.place path →
    (reconcile .record w path produced).2.node? other = w.node? other

/-- Recording in two workspaces that differ at most in the file at the path ends alike. -/
structure RecordsAlike (w w' : Workspace) (path : Path) (produced : String) : Prop where
  /-- The output is recorded in both or in neither. -/
  recorded_iff : (reconcile .record w' path produced).1 = .ok .recorded ↔
    (reconcile .record w path produced).1 = .ok .recorded
  /-- If something stands there in both or in neither, even the errors are the same. -/
  result_eq : (w'.tree.at? (w.place path)).isSome = (w.tree.at? (w.place path)).isSome →
    (reconcile .record w' path produced).1 = (reconcile .record w path produced).1
  /-- Once the output is recorded there is no difference any more. -/
  agrees : (reconcile .record w path produced).1 = .ok .recorded →
    AgreesOff ∅ (reconcile .record w path produced).2 (reconcile .record w' path produced).2

lemma comparesExactly (w : Workspace) (path : Path) (produced : String) :
    ComparesExactly w path produced where
  unchanged := rfl
  matched_iff := compareSnapshot_eq_matched_iff
  missing_iff other := by
    rw [← reconciles_iff]
    constructor
    · intro h
      cases h with
      | missing hfile => exact ⟨rfl, hfile⟩
    · rintro ⟨rfl, hfile⟩
      exact .missing hfile
  mismatch stored hnode hstored := by
    refine ⟨Utf8.lossyText stored, Utf8.shows_lossyText stored, ?_⟩
    exact reconciles_iff.mp (.different (isFile_iff.mpr ⟨stored, hnode⟩)
      (readBytes_eq_ok_iff.mpr hnode) hstored)

/-- Recording is writing the bytes of the output. -/
lemma reconcile_record_of_writable (h : w.Writable path) (produced : String) :
    ∃ written, w.writeBytes path (Utf8.bytesOf produced) = .ok written ∧
      reconcile .record w path produced = (.ok .recorded, written) := by
  obtain ⟨written, hwrite⟩ := h.exists_writeBytes (Utf8.bytesOf produced)
  exact ⟨written, hwrite, reconcile_record_eq_ok_iff.mpr hwrite⟩

/-- Where no file can be written, recording ends in an error for the path. -/
lemma reconcile_record_of_not_writable (h : ¬w.Writable path) (produced : String) :
    ∃ cause, reconcile .record w path produced = (.error (.access path cause), w) := by
  cases hwrite : w.writeBytes path (Utf8.bytesOf produced) with
  | error cause => exact ⟨cause, by simp only [reconcile, hwrite]⟩
  | ok written => exact absurd (writeBytes_eq_ok_iff.mp hwrite).1 h

lemma reconcile_record_eq_recorded_iff :
    (reconcile .record w path produced).1 = .ok .recorded ↔ w.Writable path := by
  constructor
  · intro h
    by_contra hrefused
    obtain ⟨cause, hcause⟩ := reconcile_record_of_not_writable hrefused produced
    rw [hcause] at h
    cases h
  · intro h
    obtain ⟨written, -, hrecord⟩ := reconcile_record_of_writable h produced
    rw [hrecord]

lemma agreesOff_reconcile_record (w : Workspace) (path : Path) (produced : String) :
    AgreesOff {w.place path} w (reconcile .record w path produced).2 := by
  by_cases h : w.Writable path
  · obtain ⟨written, hwrite, hrecord⟩ := reconcile_record_of_writable h produced
    rw [hrecord]
    exact agreesOff_of_writeBytes hwrite
  · obtain ⟨cause, hrecord⟩ := reconcile_record_of_not_writable h produced
    rw [hrecord]
    exact .refl _ w

lemma recordsExactly (w : Workspace) (path : Path) (produced : String) :
    RecordsExactly w path produced where
  recorded_iff := reconcile_record_eq_recorded_iff
  refused h := reconcile_record_of_not_writable h produced
  stored h := by
    obtain ⟨written, hwrite, hrecord⟩ := reconcile_record_of_writable h produced
    rw [hrecord]
    exact node?_of_writeBytes hwrite
  agrees := agreesOff_reconcile_record w path produced
  elsewhere other hother := (agreesOff_reconcile_record w path produced).node?_eq hother

/-- The result of recording depends on nothing but whether, and why not, the file can be written. -/
lemma reconcile_record_eq_of_target_eq (h : w'.target path = w.target path) :
    (reconcile .record w' path produced).1 = (reconcile .record w path produced).1 := by
  unfold reconcile writeBytes
  rw [h]
  cases w.target path <;> rfl

lemma recordsAlike (h : AgreesOff {w.place path} w w') (produced : String) :
    RecordsAlike w w' path produced where
  recorded_iff := by
    rw [reconcile_record_eq_recorded_iff, reconcile_record_eq_recorded_iff, h.writable_iff]
  result_eq hsome := reconcile_record_eq_of_target_eq
    (h.target_eq fun place hplace => Set.mem_singleton_iff.mp hplace ▸ hsome)
  agrees hrecorded := by
    have hwritable := reconcile_record_eq_recorded_iff.mp hrecorded
    obtain ⟨written, hwrite, hrecord⟩ := reconcile_record_of_writable hwritable produced
    obtain ⟨written', hwrite', hrecord'⟩ :=
      reconcile_record_of_writable (hwritable.agree h) produced
    rw [hrecord, hrecord']
    exact h.nowhere_of_writeBytes hwrite hwrite'

/-- Reconciling is exact in both modes. Comparing changes nothing, matches the very bytes of the output
only, and tells a missing file from a file of other bytes, which it shows as they are if they write a
text. Recording leaves exactly the bytes of the output at the path and changes nothing else, or ends
in an error for the path and changes nothing at all; a file that is there is always overwritten. What
stood at the path makes no difference to that. -/
theorem reconcile_exact (w : Workspace) (path : Path) (produced : String) :
    ComparesExactly w path produced ∧ RecordsExactly w path produced ∧
      (w.isFile path = true → (Path.components path).getLast? ≠ some ".." →
        (reconcile .record w path produced).1 = .ok .recorded) ∧
      ∀ w', AgreesOff {w.place path} w w' → RecordsAlike w w' path produced :=
  ⟨comparesExactly w path produced, recordsExactly w path produced,
    fun hfile hlast => reconcile_record_eq_recorded_iff.mpr (writable_of_isFile hfile hlast),
    fun _ h => recordsAlike h produced⟩

/-- Workspaces with one snapshot differ in its content alone. -/
lemma Workspace.agreesOff_recorded (old new : Bytes) :
    AgreesOff {Workspace.place (.recorded old) "output.js"} (.recorded old) (.recorded new) := by
  have hwrite : Workspace.writeBytes (.recorded old) "output.js" new = .ok (.recorded new) := rfl
  exact agreesOff_of_writeBytes hwrite

/-- A snapshot that is no text and a longer one are overwritten by the same output, and nothing tells
the workspaces apart afterwards. An empty output does not match a directory. -/
theorem reconcile_exact_samples :
    (reconcile .record (.recorded [0xFF]) "output.js" "x").1 = .ok .recorded ∧
      AgreesOff ∅ (reconcile .record (.recorded [0xFF]) "output.js" "x").2
        (reconcile .record (.recorded (Utf8.bytesOf "longer")) "output.js" "x").2 ∧
      (reconcile .assert (.recorded []) "output.js" "").1 = .ok .matched ∧
      (reconcile .assert (.recorded []) "." "").1 = .error (.missingSnapshot ".") := by
  obtain ⟨-, -, hoverwrites, halike⟩ := reconcile_exact (.recorded [0xFF]) "output.js" "x"
  obtain ⟨hempty, -⟩ := reconcile_exact (.recorded []) "output.js" ""
  obtain ⟨hdirectory, -⟩ := reconcile_exact (.recorded []) "." ""
  have hrecorded := hoverwrites (by decide +kernel) (by decide +kernel)
  refine ⟨hrecorded, (halike _ (Workspace.agreesOff_recorded _ _)).agrees hrecorded,
    hempty.matched_iff.mpr (by decide +kernel),
    (hdirectory.missing_iff _).mpr ⟨rfl, by decide +kernel⟩⟩

end SnapshotSuite
