import SnapshotSuite.Document.Reader
import SnapshotSuite.Proofs.Document.Depth

/-!
# What is read

A document that is read has no object with a key twice: where a text repeats a key, the object keeps
one field. Nor has it more containers inside one another than may be opened. `Gives P reader` says
that whatever a reader takes off a text satisfies `P`.
-/

namespace SnapshotSuite

namespace Document

variable {α β : Type} {P : Document → Prop} {item array object : Reader Document}

/-- Whatever the reader gives satisfies a condition. -/
def Gives (P : α → Prop) (reader : Reader α) : Prop :=
  ∀ cs parsed, reader cs = .ok parsed → P parsed.value

lemma exists_of_map_eq_ok {read : Except Fault α} {f : α → β} {b : β} (h : read.map f = .ok b) :
    ∃ a, read = .ok a ∧ f a = b := by
  cases read with
  | error fault => cases h
  | ok a => exact ⟨a, rfl, Except.ok.inj h⟩

lemma value_readWord {document : Document} {letters cs : List Char} {passed : Passed Document cs}
    (h : readWord document letters cs = .ok passed) : passed.value = document := by
  fun_induction readWord document letters cs with
  | case1 cs =>
    obtain rfl := Except.ok.inj h
    rfl
  | case2 => cases h
  | case3 l ls cs ih =>
    obtain ⟨inner, hinner, rfl⟩ := exists_of_map_eq_ok h
    exact ih hinner
  | case4 => cases h

lemma gives_readItems (hitem : Gives P item) : Gives (∀ value ∈ ·, P value) (readItems item) := by
  intro cs parsed h
  fun_induction readItems item cs with
  | case2 =>
    obtain rfl := Except.ok.inj h
    simp
  | case7 _ rest _ _ _ _ _ first hfirst _ others hothers ih =>
    obtain rfl := Except.ok.inj h
    exact List.forall_mem_cons.mpr ⟨hitem rest first hfirst, ih others hothers⟩
  | _ => cases h

lemma gives_readArray (hitem : Gives P item) : Gives (∀ value ∈ ·, P value) (readArray item) := by
  intro cs parsed h
  unfold readArray at h
  split at h
  · cases h
  · obtain rfl := Except.ok.inj h
    simp
  · split at h
    · cases h
    · next first hfirst =>
      split at h
      · cases h
      · next others hothers =>
        obtain rfl := Except.ok.inj h
        exact List.forall_mem_cons.mpr
          ⟨hitem cs first hfirst, gives_readItems hitem first.rest others hothers⟩

lemma gives_readField (hitem : Gives P item) :
    Gives (fun field : String × Document => P field.2) (readField item) := by
  intro cs parsed h
  unfold readField at h
  split at h
  · cases h
  · split at h
    · cases h
    · next rest _ =>
      split at h
      · cases h
      · next value hvalue =>
        obtain rfl := Except.ok.inj h
        exact hitem rest value hvalue
    · cases h

lemma gives_readFields (hitem : Gives P item) :
    Gives (fun fields : Fields => ∀ field ∈ fields, P field.2) (readFields item) := by
  intro cs parsed h
  fun_induction readFields item cs with
  | case2 =>
    obtain rfl := Except.ok.inj h
    simp
  | case7 _ rest _ more _ first hfirst _ others hothers ih =>
    obtain rfl := Except.ok.inj h
    exact List.forall_mem_cons.mpr ⟨gives_readField hitem more first hfirst, ih others hothers⟩
  | _ => cases h

lemma gives_readObject (hitem : Gives P item) :
    Gives (fun fields : Fields => ∀ field ∈ fields, P field.2) (readObject item) := by
  intro cs parsed h
  unfold readObject at h
  split at h
  · cases h
  · obtain rfl := Except.ok.inj h
    simp
  · next rest _ =>
    split at h
    · cases h
    · next first hfirst =>
      split at h
      · cases h
      · next others hothers =>
        obtain rfl := Except.ok.inj h
        have hrest := gives_readFields hitem first.rest others hothers
        exact List.forall_mem_cons.mpr ⟨gives_readField hitem rest first hfirst, hrest⟩
  · cases h

/-- A token is read as a scalar, unless a bracket or a brace opens a container. -/
lemma gives_readToken (hscalar : ∀ document : Document, document.depth = 0 → P document)
    (harray : Gives P array) (hobject : Gives P object) : Gives P (readToken array object) := by
  intro cs parsed h
  unfold readToken at h
  split at h
  · cases h
  · obtain ⟨word, hword, rfl⟩ := exists_of_map_eq_ok h
    rw [Passed.value_behind, value_readWord hword]
    exact hscalar _ rfl
  · obtain ⟨word, hword, rfl⟩ := exists_of_map_eq_ok h
    rw [Passed.value_behind, value_readWord hword]
    exact hscalar _ rfl
  · obtain ⟨word, hword, rfl⟩ := exists_of_map_eq_ok h
    rw [Passed.value_behind, value_readWord hword]
    exact hscalar _ rfl
  · obtain ⟨quoted, -, rfl⟩ := exists_of_map_eq_ok h
    exact hscalar _ rfl
  · obtain ⟨number, -, rfl⟩ := exists_of_map_eq_ok h
    exact hscalar _ rfl
  · obtain ⟨inner, hinner, rfl⟩ := exists_of_map_eq_ok h
    exact harray _ inner hinner
  · obtain ⟨inner, hinner, rfl⟩ := exists_of_map_eq_ok h
    exact hobject _ inner hinner
  · split_ifs at h
    · obtain ⟨number, -, rfl⟩ := exists_of_map_eq_ok h
      exact hscalar _ rfl

/-- A condition for each number of containers that may still be opened: scalars satisfy all of them,
and containers that of one container more than what they hold. -/
structure ReadingCondition (P : Nat → Document → Prop) : Prop where
  scalar : ∀ room document, document.depth = 0 → P room document
  array : ∀ room items, (∀ item ∈ items, P room item) → P (room + 1) (.array items)
  object : ∀ room fields, (∀ field ∈ fields, P room field.2) →
    P (room + 1) (.object (Fields.overlay [] fields))

lemma ReadingCondition.gives_readValue {P : Nat → Document → Prop} (h : ReadingCondition P)
    (room : Nat) : Gives (P room) (readValue room) := by
  induction room with
  | zero =>
    intro cs parsed hread
    unfold readValue at hread
    obtain ⟨inner, hinner, rfl⟩ := exists_of_map_eq_ok hread
    refine gives_readToken (h.scalar 0) ?_ ?_ _ inner hinner
    · intro ds parsed hread
      cases hread
    · intro ds parsed hread
      cases hread
  | succ room ih =>
    intro cs parsed hread
    unfold readValue at hread
    obtain ⟨inner, hinner, rfl⟩ := exists_of_map_eq_ok hread
    refine gives_readToken (h.scalar (room + 1)) ?_ ?_ _ inner hinner
    · intro ds parsed hread
      obtain ⟨items, hitems, rfl⟩ := exists_of_map_eq_ok hread
      exact h.array room _ (gives_readArray ih ds items hitems)
    · intro ds parsed hread
      obtain ⟨fields, hfields, rfl⟩ := exists_of_map_eq_ok hread
      exact h.object room _ (gives_readObject ih ds fields hfields)

lemma ReadingCondition.of_read {P : Nat → Document → Prop} (h : ReadingCondition P) {text : String}
    {document : Document} (hread : read text = .ok document) : P maxDepth document := by
  dsimp only [read] at hread
  split at hread
  · cases hread
  · next parsed hparsed =>
    split at hread
    · obtain rfl := Except.ok.inj hread
      exact h.gives_readValue maxDepth _ parsed hparsed
    · cases hread

lemma readingCondition_uniqueKeys : ReadingCondition fun _ => UniqueKeys where
  scalar _ document h := by
    cases document with
    | null => exact .null
    | bool value => exact .bool value
    | number value => exact .number value
    | string value => exact .string value
    | array items => cases h
    | object fields => cases h
  array _ _ hitems := .array hitems
  object _ fields hfields := by
    have hnil : Fields.Unique [] := List.nodup_nil
    exact .object (Fields.unique_overlay hnil _) (Fields.forall_mem_overlay_nil hfields)

lemma readingCondition_depth : ReadingCondition fun room document => document.depth ≤ room where
  scalar _ _ h := h.symm ▸ Nat.zero_le _
  array _ _ hitems := depth_array_le_iff.mpr hitems
  object room _ hfields :=
    depth_object_le_iff.mpr (Fields.forall_mem_overlay_nil (P := (·.depth ≤ room)) hfields)

/-- No object of a document that is read has a key twice. -/
theorem uniqueKeys_of_read {text : String} {document : Document} (h : read text = .ok document) :
    document.UniqueKeys :=
  readingCondition_uniqueKeys.of_read h

/-- A document that is read has no more containers inside one another than are let through. -/
theorem depth_le_of_read {text : String} {document : Document} (h : read text = .ok document) :
    document.depth ≤ maxDepth :=
  readingCondition_depth.of_read h

end Document

end SnapshotSuite
