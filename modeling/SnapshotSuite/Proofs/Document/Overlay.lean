import Mathlib.Data.List.Infix
import SnapshotSuite.Proofs.Document.Fields

/-!
# Overlays as lists

Where the keys of an overlay stand. A key that is set twice keeps the first place and the second
value. An overlay keeps the fields of its base in front, so overrides that already begin with the
keys of the base come out as they are.
-/

namespace SnapshotSuite

namespace Fields

variable {fields base overrides : Fields} {key : String} {value : Document}

/-- Setting a key once more makes the first setting count for nothing. -/
@[simp] lemma insert_insert (key : String) (old value : Document) (fields : Fields) :
    insert key value (insert key old fields) = insert key value fields := by
  induction fields with
  | nil => simp [insert]
  | cons field fields ih =>
    obtain ⟨first, other⟩ := field
    by_cases hfirst : first = key
    · simp [insert, hfirst]
    · simp [insert, hfirst, ih]

/-- Setting a key to the value that it has changes nothing. -/
lemma insert_of_get?_eq_some (h : get? fields key = some value) :
    insert key value fields = fields := by
  induction fields with
  | nil => cases h
  | cons field fields ih =>
    obtain ⟨first, other⟩ := field
    rw [get?_cons] at h
    by_cases hfirst : first = key
    · subst hfirst
      obtain rfl : other = value := by simpa using h
      rw [insert, if_pos rfl]
    · rw [if_neg (Ne.symm hfirst)] at h
      rw [insert, if_neg hfirst, ih h]

/-- A key that is there keeps its place, and a new one goes to the end. -/
lemma keys_insert (key : String) (value : Document) (fields : Fields) :
    keys (insert key value fields) =
      if key ∈ keys fields then keys fields else keys fields ++ [key] := by
  induction fields with
  | nil => simp [insert]
  | cons field fields ih =>
    obtain ⟨first, other⟩ := field
    by_cases hfirst : first = key
    · simp [insert, hfirst]
    · rw [insert, if_neg hfirst, keys_cons, keys_cons, ih]
      by_cases hmem : key ∈ keys fields
      · simp [hmem]
      · simp [hmem, Ne.symm hfirst]

/-- Keys, and behind them those of a second list that they lack. -/
def joinKeys (front more : List String) : List String :=
  front ++ more.filter fun key => key ∉ front

lemma keys_insert_eq_joinKeys (key : String) (value : Document) (fields : Fields) :
    keys (insert key value fields) = joinKeys (keys fields) [key] := by
  rw [keys_insert, joinKeys]
  by_cases hmem : key ∈ keys fields
  · simp [hmem]
  · simp [hmem]

/-- An overlay has the keys of its base in their places, and then the new ones of the overrides in
their order. -/
lemma keys_overlay (hunique : Unique overrides) (base : Fields) :
    keys (overlay base overrides) = joinKeys (keys base) (keys overrides) := by
  induction overrides generalizing base with
  | nil => simp [joinKeys]
  | cons field overrides ih =>
    obtain ⟨key, value⟩ := field
    obtain ⟨hkey, hrest⟩ := List.nodup_cons.mp hunique
    rw [overlay_cons, ih hrest, keys_insert, keys_cons, joinKeys, joinKeys]
    by_cases hmem : key ∈ keys base
    · simp [hmem]
    · -- the key itself is not met again among the overrides that follow
      have hfilter : (keys overrides).filter (fun other => other ∉ keys base ++ [key]) =
          (keys overrides).filter fun other => other ∉ keys base :=
        List.filter_congr fun other hother => by
          simp [show other ≠ key from fun heq => hkey (heq ▸ hother)]
      simp only [if_neg hmem, hfilter]
      simp [hmem]

/-- An overlay begins with the keys of its base. -/
lemma keys_prefix_keys_overlay (base overrides : Fields) :
    keys base <+: keys (overlay base overrides) := by
  induction overrides generalizing base with
  | nil => exact List.prefix_rfl
  | cons field overrides ih =>
    refine List.IsPrefix.trans ?_ (ih (insert field.1 field.2 base))
    rw [keys_insert]
    split_ifs
    · exact List.prefix_rfl
    · exact List.prefix_append _ _

/-- A field of the base that no override has stays in front. -/
lemma overlay_cons_of_not_mem {field : String × Document} (h : field.1 ∉ keys overrides) :
    overlay (field :: base) overrides = field :: overlay base overrides := by
  induction overrides generalizing base with
  | nil => rfl
  | cons other overrides ih =>
    obtain ⟨key, value⟩ := other
    rw [keys_cons, List.mem_cons, not_or] at h
    rw [overlay_cons, overlay_cons, insert, if_neg h.1, ih h.2]

/-- Overrides that begin with the keys of the base replace the base altogether. -/
lemma overlay_eq_of_prefix (hunique : Unique overrides) (hkeys : keys base <+: keys overrides) :
    overlay base overrides = overrides := by
  induction overrides generalizing base with
  | nil =>
    obtain rfl : base = [] := by simpa [keys] using hkeys
    rfl
  | cons field overrides ih =>
    obtain ⟨key, value⟩ := field
    obtain ⟨hkey, hrest⟩ := List.nodup_cons.mp hunique
    cases base with
    | nil =>
      have hnil : keys [] <+: keys overrides := List.nil_prefix
      rw [overlay_cons, insert, overlay_cons_of_not_mem hkey, ih hrest hnil]
    | cons first base =>
      obtain ⟨hfirst, hbase⟩ := List.cons_prefix_cons.mp hkeys
      rw [overlay_cons, insert, if_pos hfirst, overlay_cons_of_not_mem hkey, ih hrest hbase]

lemma unique_overlay_nil (overrides : Fields) : Unique (overlay [] overrides) := by
  have hnil : Unique [] := List.nodup_nil
  exact unique_overlay hnil overrides

/-- Fields without a repeated key laid over nothing are themselves. -/
lemma overlay_nil_left (hunique : Unique overrides) : overlay [] overrides = overrides :=
  overlay_eq_of_prefix hunique List.nil_prefix

end Fields

end SnapshotSuite
