import Mathlib.Tactic.Lemma
import SnapshotSuite.Proofs.Document.Fields

/-!
# Depth of documents

A container is one deeper than the deepest value that it holds, so a value behind a list of keys
lies as many levels further in as there are keys.
-/

namespace SnapshotSuite

namespace Document

variable {items : List Document} {fields : Fields} {keys : List String} {document value : Document}
  {n : Nat}

lemma depthItems_le_iff : depthItems items ≤ n ↔ ∀ item ∈ items, item.depth ≤ n := by
  induction items with
  | nil => simp [depthItems]
  | cons item items ih => rw [depthItems, Nat.max_le, ih, List.forall_mem_cons]

lemma depthFields_le_iff : depthFields fields ≤ n ↔ ∀ field ∈ fields, field.2.depth ≤ n := by
  induction fields with
  | nil => simp [depthFields]
  | cons field fields ih => rw [depthFields, Nat.max_le, ih, List.forall_mem_cons]

lemma depth_array_le_iff : (array items).depth ≤ n + 1 ↔ ∀ item ∈ items, item.depth ≤ n := by
  rw [depth, Nat.add_le_add_iff_right, depthItems_le_iff]

lemma depth_object_le_iff :
    (object fields).depth ≤ n + 1 ↔ ∀ field ∈ fields, field.2.depth ≤ n := by
  rw [depth, Nat.add_le_add_iff_right, depthFields_le_iff]

lemma depth_lt_of_get? {key : String} (h : document.get? key = some value) :
    value.depth < document.depth := by
  cases document with
  | object fields =>
    rw [depth, Nat.lt_succ_iff]
    exact depthFields_le_iff.mp (Nat.le_refl _) _ (Fields.mem_of_get?_eq_some h)
  | null | bool | number | string | array => cases h

/-- Every key on the way to a value stands for one level. -/
lemma depth_add_length_le (h : document.at? keys = some value) :
    value.depth + keys.length ≤ document.depth := by
  induction keys generalizing document with
  | nil =>
    obtain rfl := Option.some.inj h
    simp
  | cons key keys ih =>
    obtain ⟨inner, hinner, hrest⟩ := Option.bind_eq_some_iff.mp h
    have hlt := depth_lt_of_get? hinner
    have hle := ih hrest
    rw [List.length_cons]
    omega

end Document

end SnapshotSuite
