import Mathlib.Data.List.Nodup
import Mathlib.Tactic.Lemma
import SnapshotSuite.Document.Basic

/-!
# Fields set and found

What `Fields.insert` and `Fields.overlay` do to the value at each key. An overlay whose keys are
unique wins at every key that it has. `Document.UniqueKeys` says that no object of a document has a
key twice, at any depth.
-/

namespace SnapshotSuite

namespace Fields

variable {fields base overrides : Fields} {key other : String} {value : Document}

@[simp] lemma get?_nil (key : String) : get? [] key = none := rfl

lemma get?_cons (field : String × Document) (fields : Fields) (key : String) :
    get? (field :: fields) key = if key = field.1 then some field.2 else get? fields key := by
  rw [get?, List.lookup_cons]
  by_cases h : key = field.1
  · simp [h]
  · rw [beq_eq_false_iff_ne.mpr h, if_neg h]
    rfl

/-- A key that is set has the new value, any other the value that it had. -/
lemma get?_insert (key other : String) (value : Document) (fields : Fields) :
    get? (insert key value fields) other =
      if other = key then some value else get? fields other := by
  induction fields with
  | nil => rw [insert, get?_cons]
  | cons field fields ih =>
    obtain ⟨first, old⟩ := field
    rw [insert]
    by_cases hfirst : first = key
    · subst hfirst
      rw [if_pos rfl, get?_cons, get?_cons]
      split_ifs <;> rfl
    · rw [if_neg hfirst, get?_cons, get?_cons, ih]
      by_cases hother : other = first
      · subst hother
        rw [if_pos rfl, if_pos rfl, if_neg hfirst]
      · rw [if_neg hother, if_neg hother]

lemma get?_eq_none_iff : get? fields key = none ↔ key ∉ keys fields := by
  induction fields with
  | nil => simp
  | cons field fields ih =>
    rw [get?_cons, keys_cons, List.mem_cons, not_or, ← ih]
    by_cases hkey : key = field.1 <;> simp [hkey]

/-- A value that is found belongs to one of the fields. -/
lemma mem_of_get?_eq_some (h : get? fields key = some value) : (key, value) ∈ fields := by
  obtain ⟨before, after, hfields, -⟩ := List.lookup_eq_some_iff.mp h
  simp [hfields]

/-- The overlay wins at every key that it has. -/
lemma get?_overlay (hunique : Unique overrides) (base : Fields) (key : String) :
    get? (overlay base overrides) key = (get? overrides key).or (get? base key) := by
  induction overrides generalizing base with
  | nil => rfl
  | cons field overrides ih =>
    obtain ⟨first, value⟩ := field
    obtain ⟨hfirst, hrest⟩ := List.nodup_cons.mp hunique
    rw [overlay_cons, ih hrest, get?_insert, get?_cons]
    by_cases hkey : key = first
    · subst hkey
      rw [get?_eq_none_iff.mpr hfirst, if_pos rfl, if_pos rfl]
      rfl
    · rw [if_neg hkey, if_neg hkey]

/-! ### Unique keys -/

lemma mem_keys_insert :
    other ∈ keys (insert key value fields) ↔ other = key ∨ other ∈ keys fields := by
  induction fields with
  | nil => simp [insert]
  | cons field fields ih =>
    obtain ⟨first, old⟩ := field
    rw [insert]
    by_cases hfirst : first = key
    · simp [hfirst]
    · rw [if_neg hfirst, keys_cons, keys_cons, List.mem_cons, List.mem_cons, ih, or_left_comm]

lemma unique_insert (h : Unique fields) (key : String) (value : Document) :
    Unique (insert key value fields) := by
  induction fields with
  | nil => simp [insert, Unique]
  | cons field fields ih =>
    obtain ⟨first, old⟩ := field
    obtain ⟨hfirst, hrest⟩ := List.nodup_cons.mp h
    rw [insert]
    by_cases hkey : first = key
    · rw [if_pos hkey, ← hkey]
      exact h
    · rw [if_neg hkey]
      exact List.nodup_cons.mpr
        ⟨fun hmem => (mem_keys_insert.mp hmem).elim hkey hfirst, ih hrest⟩

/-- An overlay does not repeat a key that the base does not repeat. -/
lemma unique_overlay (h : Unique base) (overrides : Fields) : Unique (overlay base overrides) := by
  induction overrides generalizing base with
  | nil => exact h
  | cons field overrides ih => exact ih (unique_insert h field.1 field.2)

/-- The fields after an insertion are the new one and some of the old ones. -/
lemma mem_of_mem_insert {field : String × Document} (h : field ∈ insert key value fields) :
    field = (key, value) ∨ field ∈ fields := by
  induction fields with
  | nil => exact .inl (by simpa [insert] using h)
  | cons first fields ih =>
    rw [insert] at h
    split_ifs at h with hfirst
    · rcases List.mem_cons.mp h with h | h
      · exact .inl h
      · exact .inr (List.mem_cons_of_mem _ h)
    · rcases List.mem_cons.mp h with h | h
      · exact .inr (h ▸ List.mem_cons_self)
      · exact (ih h).imp_right (List.mem_cons_of_mem _)

lemma mem_of_mem_overlay {field : String × Document} (h : field ∈ overlay base overrides) :
    field ∈ base ∨ field ∈ overrides := by
  induction overrides generalizing base with
  | nil => exact .inl h
  | cons first overrides ih =>
    rcases ih h with h | h
    · rcases mem_of_mem_insert h with rfl | h
      · exact .inr List.mem_cons_self
      · exact .inl h
    · exact .inr (List.mem_cons_of_mem _ h)

/-- What holds of a new value and of all old ones holds of all values after an insertion. -/
lemma forall_mem_insert {P : Document → Prop} (hvalue : P value)
    (h : ∀ field ∈ fields, P field.2) : ∀ field ∈ insert key value fields, P field.2 := by
  intro field hfield
  rcases mem_of_mem_insert hfield with rfl | hfield
  · exact hvalue
  · exact h field hfield

lemma forall_mem_overlay {P : Document → Prop} (hbase : ∀ field ∈ base, P field.2)
    (h : ∀ field ∈ overrides, P field.2) : ∀ field ∈ overlay base overrides, P field.2 := by
  intro field hfield
  rcases mem_of_mem_overlay hfield with hfield | hfield
  · exact hbase field hfield
  · exact h field hfield

lemma forall_mem_overlay_nil {P : Document → Prop} (h : ∀ field ∈ overrides, P field.2) :
    ∀ field ∈ overlay [] overrides, P field.2 :=
  forall_mem_overlay (fun _ hfield => (nomatch hfield)) h

end Fields

namespace Document

/-- No object of the document has a key twice, at any depth. -/
inductive UniqueKeys : Document → Prop
  | null : UniqueKeys .null
  | bool (value : Bool) : UniqueKeys (.bool value)
  | number (value : Number) : UniqueKeys (.number value)
  | string (value : String) : UniqueKeys (.string value)
  | array {items : List Document} (hitems : ∀ item ∈ items, UniqueKeys item) :
      UniqueKeys (.array items)
  | object {fields : Fields} (hunique : Fields.Unique fields)
      (hfields : ∀ field ∈ fields, UniqueKeys field.2) : UniqueKeys (.object fields)

variable {document value : Document} {key : String} {fields : Fields}

@[simp] lemma uniqueKeys_array_iff {items : List Document} :
    UniqueKeys (.array items) ↔ ∀ item ∈ items, UniqueKeys item :=
  ⟨fun | .array hitems => hitems, .array⟩

@[simp] lemma uniqueKeys_object_iff :
    UniqueKeys (.object fields) ↔
      Fields.Unique fields ∧ ∀ field ∈ fields, UniqueKeys field.2 :=
  ⟨fun | .object hunique hfields => ⟨hunique, hfields⟩, fun h => .object h.1 h.2⟩

lemma UniqueKeys.unique (h : UniqueKeys document) (hfields : document.fields? = some fields) :
    Fields.Unique fields := by
  cases h with
  | object hunique _ =>
    obtain rfl := Option.some.inj hfields
    exact hunique
  | null | bool | number | string | array => cases hfields

lemma UniqueKeys.get? (h : UniqueKeys document) (hvalue : document.get? key = some value) :
    UniqueKeys value := by
  cases h with
  | object _ hfields =>
    exact hfields _ (Fields.mem_of_get?_eq_some hvalue)
  | null | bool | number | string | array => cases hvalue

end Document

end SnapshotSuite
