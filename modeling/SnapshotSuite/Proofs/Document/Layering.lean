import SnapshotSuite.Proofs.Document.Overlay

/-!
# Overlays as an algebra

Fields without a repeated key are determined by their keys in order and by the value at each key. An
overlay joins the keys of its layers, and at every key the last layer that has a value wins. So the
laws of overlays are those of joined keys and of first choices: layers can be put together in any
grouping, nothing laid over fields or under them changes them, and a layer counts once.
-/

namespace SnapshotSuite

namespace Fields

variable {fields other : Fields} {front middle back : List String}

/-- Fields with the same keys in the same order and the same value at every key are the same. -/
lemma ext_of_keys (hunique : Unique fields) (hkeys : keys fields = keys other)
    (hget : ∀ key, get? fields key = get? other key) : fields = other := by
  induction fields generalizing other with
  | nil =>
    obtain rfl : other = [] := List.map_eq_nil_iff.mp hkeys.symm
    rfl
  | cons field fields ih =>
    cases other with
    | nil => cases hkeys
    | cons field' other =>
      obtain ⟨hfirst, hrest⟩ : field.1 = field'.1 ∧ keys fields = keys other := by
        simpa using hkeys
      obtain ⟨hfield, hunique⟩ := List.nodup_cons.mp hunique
      have hvalue : field.2 = field'.2 := by
        have hkey := hget field.1
        rw [get?_cons, if_pos rfl, get?_cons, if_pos hfirst] at hkey
        exact Option.some.inj hkey
      have htail : fields = other := by
        refine ih hunique hrest fun key => ?_
        by_cases hkey : key = field.1
        · -- the first key does not come again on either side
          have hfield' : field.1 ∉ keys other := hrest ▸ hfield
          rw [hkey, get?_eq_none_iff.mpr hfield, get?_eq_none_iff.mpr hfield']
        · have hother := hget key
          rwa [get?_cons, if_neg hkey, get?_cons, if_neg (hfirst ▸ hkey)] at hother
      rw [htail, Prod.ext hfirst hvalue]

/-! ### Joined keys -/

lemma joinKeys_assoc :
    joinKeys (joinKeys front middle) back = joinKeys front (joinKeys middle back) := by
  have hback : back.filter (fun key => key ∉ front ++ middle.filter fun key => key ∉ front) =
      (back.filter fun key => key ∉ middle).filter fun key => key ∉ front := by
    rw [List.filter_filter]
    refine List.filter_congr fun key _ => ?_
    by_cases hfront : key ∈ front <;> simp [hfront]
  rw [joinKeys, joinKeys, joinKeys, joinKeys, hback, List.filter_append, List.append_assoc]

/-! ### Layers -/

section Layers

variable {a b c : Fields}

/-- Layers can be put together from either end. -/
lemma overlay_assoc (ha : Unique a) (hb : Unique b) (hc : Unique c) :
    overlay (overlay a b) c = overlay a (overlay b c) := by
  have hbc : Unique (overlay b c) := unique_overlay hb c
  refine ext_of_keys (unique_overlay (unique_overlay ha b) c) ?_ fun key => ?_
  · rw [keys_overlay hc, keys_overlay hb, keys_overlay hbc, keys_overlay hc, joinKeys_assoc]
  · rw [get?_overlay hc, get?_overlay hb, get?_overlay hbc, get?_overlay hc, Option.or_assoc]

/-- Fields laid over themselves are themselves. -/
lemma overlay_self (ha : Unique a) : overlay a a = a :=
  overlay_eq_of_prefix ha List.prefix_rfl

/-- A layer that is put on once more makes no difference. -/
lemma overlay_overlay_self (ha : Unique a) (hb : Unique b) :
    overlay (overlay a b) b = overlay a b := by
  rw [overlay_assoc ha hb hb, overlay_self hb]

/-- What is no object lays nothing over fields. -/
lemma overlay_of_not_object {given : Option Document} (a : Fields)
    (h : ∀ inner, given ≠ some (.object inner)) :
    overlay a ((given.bind Document.fields?).getD []) = a := by
  have hnothing : (given.bind Document.fields?).getD [] = [] := by
    match given, h with
    | none, _ => rfl
    | some (.object inner), h => exact absurd rfl (h inner)
    | some .null, _ | some (.bool _), _ | some (.number _), _ | some (.string _), _
    | some (.array _), _ => rfl
  rw [hnothing, overlay_nil]

end Layers

/-- Overlays of fields without repeated keys are associative, in their values and in the order of
their keys. No fields are neutral on both sides, and so are overrides that are absent or no object.
A layer counts once, next to itself or over another one. No key of an overlay is repeated; first come
the keys of the base in their order, then the keys that only the overrides have, in theirs; and at
each key the overrides win. -/
theorem overlay_layers (a b c : Fields) (ha : Unique a) (hb : Unique b) (hc : Unique c) :
    overlay (overlay a b) c = overlay a (overlay b c) ∧
      overlay [] a = a ∧ overlay a [] = a ∧
      (∀ given : Option Document, (∀ inner, given ≠ some (.object inner)) →
        overlay a ((given.bind Document.fields?).getD []) = a) ∧
      overlay a a = a ∧ overlay (overlay a b) b = overlay a b ∧
      Unique (overlay a b) ∧
      keys (overlay a b) = keys a ++ (keys b).filter (fun key => key ∉ keys a) ∧
      ∀ key, get? (overlay a b) key = (get? b key).or (get? a key) :=
  ⟨overlay_assoc ha hb hc, overlay_nil_left ha, overlay_nil a, fun _ => overlay_of_not_object a,
    overlay_self ha, overlay_overlay_self ha hb, unique_overlay ha b, keys_overlay hb a,
    get?_overlay hb a⟩

/-- Of three layers that share keys, the first sets the order and the last the values. -/
theorem overlay_layers_sample :
    let base : Fields := [("syntax", .string "ecmascript"), ("tsx", .bool false), ("jsx", .bool true)]
    let host : Fields := [("decorators", .bool true), ("jsx", .null)]
    let later : Fields := [("jsx", .bool false), ("target", .string "es5"), ("syntax", .null)]
    Unique base ∧ Unique host ∧ Unique later ∧
      overlay (overlay base host) later = overlay base (overlay host later) ∧
      overlay base (overlay host later) = [("syntax", .null), ("tsx", .bool false),
        ("jsx", .bool false), ("decorators", .bool true), ("target", .string "es5")] := by
  intro base host later
  have hbase : Unique base := by simp [base, Unique]
  have hhost : Unique host := by simp [host, Unique]
  have hlater : Unique later := by simp [later, Unique]
  obtain ⟨hassoc, -⟩ := overlay_layers base host later hbase hhost hlater
  exact ⟨hbase, hhost, hlater, hassoc, rfl⟩

end Fields

end SnapshotSuite
