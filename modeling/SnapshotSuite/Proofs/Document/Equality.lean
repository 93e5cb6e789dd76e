import Mathlib.Data.List.Perm.Subperm
import SnapshotSuite.Proofs.Document.Fields

/-!
# Equality of documents, key by key

Two objects without repeated keys are equal, the order of their fields left out, exactly if they have
equal values at every key or no value in either. So equality can be followed from a document into its
values and back, and no lemma that does so has to count fields.
-/

namespace SnapshotSuite

namespace Document

/-- Equal values, or no value in either place. -/
def SameOptional : Option Document → Option Document → Prop :=
  Option.Rel fun a b => a.same b = true

end Document

namespace Fields

variable {fields other : Fields} {key : String} {value : Document}

/-- Both have equal values at every key, or no value in either. -/
def Same (fields other : Fields) : Prop :=
  ∀ key, Document.SameOptional (get? fields key) (get? other key)

/-- Without repeated keys the value of every field is the one at its key. -/
lemma get?_of_mem (hunique : Unique fields) (h : (key, value) ∈ fields) :
    get? fields key = some value := by
  induction fields with
  | nil => cases h
  | cons field fields ih =>
    obtain ⟨hfield, hrest⟩ := List.nodup_cons.mp hunique
    rw [get?_cons]
    rcases List.mem_cons.mp h with rfl | hmem
    · exact if_pos rfl
    · have hne : key ≠ field.1 := by
        rintro rfl
        exact hfield (List.mem_map.mpr ⟨_, hmem, rfl⟩)
      rw [if_neg hne, ih hrest hmem]

lemma length_keys (fields : Fields) : (keys fields).length = fields.length :=
  List.length_map _

lemma sameFields_iff : Document.sameFields fields other = true ↔
    ∀ field ∈ fields, ∃ value, get? other field.1 = some value ∧ field.2.same value = true := by
  induction fields with
  | nil => simp [Document.sameFields]
  | cons field fields ih =>
    obtain ⟨key, value⟩ := field
    rw [Document.sameFields, Bool.and_eq_true, ih, List.forall_mem_cons]
    cases get? other key <;> simp

/-- Objects of one size have the same keys if all keys of the first are keys of the second. -/
lemma perm_keys_of_sameFields (hunique : Unique fields) (hlength : fields.length = other.length)
    (h : Document.sameFields fields other = true) : (keys fields).Perm (keys other) := by
  have hsub : keys fields ⊆ keys other := by
    intro key hkey
    obtain ⟨field, hfield, rfl⟩ := List.mem_map.mp hkey
    obtain ⟨value, hvalue, -⟩ := sameFields_iff.mp h field hfield
    exact List.mem_map.mpr ⟨_, mem_of_get?_eq_some hvalue, rfl⟩
  have hsize : (keys other).length = (keys fields).length := by
    rw [length_keys, length_keys, hlength]
  exact (List.Nodup.subperm hunique hsub).perm_of_length_le (Nat.le_of_eq hsize)

/-- Fields whose values equal themselves are equal to themselves. -/
lemma same_self (h : ∀ field ∈ fields, field.2.same field.2 = true) : Same fields fields := by
  intro key
  cases hget : get? fields key with
  | none => exact .none
  | some value => exact .some (h _ (mem_of_get?_eq_some hget))

/-- What is equal at every key has the same keys. -/
lemma Same.mem_keys_iff (h : Same fields other) (key : String) :
    key ∈ keys fields ↔ key ∈ keys other := by
  rw [← not_iff_not, ← get?_eq_none_iff, ← get?_eq_none_iff]
  have hkey := h key
  revert hkey
  cases get? fields key <;> cases get? other key <;> simp [Document.SameOptional]

end Fields

namespace Document

variable {a b c d : Option Document} {document other : Document} {fields more : Fields}

/-- Objects without repeated keys are equal exactly if they are equal at every key. -/
theorem same_object_iff (hfields : Fields.Unique fields) (hmore : Fields.Unique more) :
    (object fields).same (object more) = true ↔ Fields.Same fields more := by
  rw [same, Bool.and_eq_true, beq_iff_eq]
  constructor
  · rintro ⟨hlength, hsame⟩ key
    cases hget : Fields.get? fields key with
    | none =>
      have hperm := Fields.perm_keys_of_sameFields hfields hlength hsame
      have hkey : key ∉ Fields.keys more := fun hmem =>
        Fields.get?_eq_none_iff.mp hget (hperm.mem_iff.mpr hmem)
      rw [Fields.get?_eq_none_iff.mpr hkey]
      exact .none
    | some value =>
      obtain ⟨other, hother, hvalue⟩ :=
        Fields.sameFields_iff.mp hsame _ (Fields.mem_of_get?_eq_some hget)
      rw [hother]
      exact .some hvalue
  · intro hsame
    refine ⟨?_, Fields.sameFields_iff.mpr fun field hfield => ?_⟩
    · have hperm := (List.perm_ext_iff_of_nodup hfields hmore).mpr hsame.mem_keys_iff
      rw [← Fields.length_keys fields, hperm.length_eq, Fields.length_keys]
    · have hkey := hsame field.1
      rw [Fields.get?_of_mem hfields hfield] at hkey
      generalize Fields.get? more field.1 = found at hkey
      cases hkey with
      | some hvalue => exact ⟨_, rfl, hvalue⟩

/-! ### Values inside equal documents -/

namespace SameOptional

/-- Of two first choices and two second choices that are equal, equal ones are taken. -/
lemma or (h : SameOptional a b) (h' : SameOptional c d) : SameOptional (a.or c) (b.or d) := by
  cases h with
  | some hvalue => exact .some hvalue
  | none => exact h'

lemma bind {f g : Document → Option Document} (h : SameOptional a b)
    (hvalues : ∀ x ∈ a, ∀ y ∈ b, x.same y = true → SameOptional (f x) (g y)) :
    SameOptional (a.bind f) (b.bind g) := by
  cases h with
  | some hvalue => exact hvalues _ rfl _ rfl hvalue
  | none => exact .none

end SameOptional

/-- Equal documents have equal values at every key. -/
lemma sameOptional_get? (hdocument : document.UniqueKeys) (hother : other.UniqueKeys)
    (h : document.same other = true) (key : String) :
    SameOptional (document.get? key) (other.get? key) := by
  cases document with
  | object fields =>
    cases other with
    | object more =>
      exact (same_object_iff (hdocument.unique rfl) (hother.unique rfl)).mp h key
    | null | bool | number | string | array => simp [same] at h
  | null | bool | number | string | array =>
    cases other with
    | object more => simp [same] at h
    | null | bool | number | string | array => exact .none

end Document

end SnapshotSuite
