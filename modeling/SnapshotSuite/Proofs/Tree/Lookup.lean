import Mathlib.Data.List.Nodup
import Mathlib.Tactic.Lemma
import SnapshotSuite.Tree.Basic

/-!
# What stands where in a tree

The view of a tree is `Tree.at?`. This file says what putting a node does to the view, and reads the
names of a directory off it: a name is listed exactly if something stands there, and only once. The
view does not fix the order of a listing: every order is that of some tree with the same view.
-/

namespace SnapshotSuite

namespace Tree

variable {tree : Tree} {location other directory : Location} {node : Node} {name : String}

/-- Dropping the entries of one location does not change what is found at any other. -/
lemma lookup_filter_ne (entries : List (Location × Node)) (h : other ≠ location) :
    (entries.filter fun entry => entry.1 != location).lookup other = entries.lookup other := by
  induction entries with
  | nil => rfl
  | cons entry entries ih =>
    obtain ⟨key, value⟩ := entry
    by_cases hkey : key = location
    · subst hkey
      have hne : (other == key) = false := beq_eq_false_iff_ne.mpr h
      simp [List.lookup_cons, hne, ih]
    · simp [hkey, List.lookup_cons, ih]

@[simp] lemma at?_put_self (h : location ≠ []) : (tree.put location node).at? location = node := by
  obtain ⟨name, parent, rfl⟩ := List.exists_cons_of_ne_nil h
  simp [put, at?]

/-- Putting a node changes nothing at any other location. -/
lemma at?_put_of_ne (h : other ≠ location) :
    (tree.put location node).at? other = tree.at? other := by
  cases other with
  | nil => rfl
  | cons name parent =>
    rw [at?, at?, put, List.lookup_cons, beq_eq_false_iff_ne.mpr h]
    exact lookup_filter_ne tree.entries h

/-- A directory lists exactly the names at which something stands. -/
lemma mem_names_iff : name ∈ tree.names directory ↔ (tree.at? (name :: directory)).isSome := by
  rw [names, List.mem_eraseDups, List.mem_filterMap, at?, List.lookup_isSome_iff]
  constructor
  · rintro ⟨⟨location, node⟩, hentry, hname⟩
    match location with
    | [] => simp at hname
    | first :: parent =>
      obtain ⟨rfl, rfl⟩ : parent = directory ∧ first = name := by simpa using hname
      exact ⟨_, hentry, by simp⟩
  · rintro ⟨⟨location, node⟩, hentry, hname⟩
    obtain rfl : name :: directory = location := by simpa using hname
    exact ⟨_, hentry, by simp⟩

/-- Erasing repetitions leaves none. -/
lemma nodup_eraseDups {α : Type} [DecidableEq α] : (items : List α) → items.eraseDups.Nodup
  | [] => by simp
  | item :: items => by
    rw [List.eraseDups_cons, List.nodup_cons]
    refine ⟨?_, nodup_eraseDups _⟩
    simp [List.mem_eraseDups]
termination_by items => items.length
decreasing_by
  have := List.length_filter_le (fun other => !other == item) items
  simp only [List.length_cons]
  omega

lemma nodup_names : (tree.names directory).Nodup :=
  nodup_eraseDups _

/-! ### The order of a listing -/

/-- The tree with the entries of a directory listed in another order. -/
def relist (tree : Tree) (directory : Location) (listed : List String) : Tree :=
  { tree with
    entries := (listed.filterMap fun name =>
      (tree.at? (name :: directory)).map fun node => (name :: directory, node)) ++ tree.entries }

/-- The order of a listing makes no difference to what stands where. -/
lemma at?_relist (tree : Tree) (directory : Location) (listed : List String)
    (location : Location) : (tree.relist directory listed).at? location = tree.at? location := by
  cases location with
  | nil => rfl
  | cons name parent =>
    rw [at?, relist, List.lookup_append]
    cases hfront : List.lookup (name :: parent) (listed.filterMap fun name =>
        (tree.at? (name :: directory)).map fun node => (name :: directory, node)) with
    | none => rfl
    | some node =>
      obtain ⟨before, after, hsplit, -⟩ := List.lookup_eq_some_iff.mp hfront
      have hmem : (name :: parent, node) ∈ before ++ (name :: parent, node) :: after := by simp
      rw [← hsplit, List.mem_filterMap] at hmem
      obtain ⟨other, -, hother⟩ := hmem
      obtain ⟨found, hfound, hentry⟩ := Option.map_eq_some_iff.mp hother
      obtain ⟨hplace, rfl⟩ := Prod.mk.inj hentry
      rw [← hplace, hfound]
      rfl

/-- Items without repetitions stay when repetitions are erased. -/
lemma eraseDups_eq_self {α : Type} [DecidableEq α] {items : List α} (h : items.Nodup) :
    items.eraseDups = items := by
  induction items with
  | nil => rfl
  | cons item items ih =>
    obtain ⟨hitem, hitems⟩ := List.nodup_cons.mp h
    have hkept : items.filter (fun other => !other == item) = items :=
      List.filter_eq_self.mpr fun other hother => by
        simpa using fun heq : other = item => hitem (heq ▸ hother)
    rw [List.eraseDups_cons, hkept, ih hitems]

/-- The name of an entry, if the entry stands in a directory. -/
def nameIn (directory : Location) (entry : Location × Node) : Option String :=
  match entry.1 with
  | name :: parent => if parent = directory then some name else none
  | [] => none

lemma names_eq : tree.names directory = (tree.entries.filterMap (nameIn directory)).eraseDups := rfl

/-- Every order of the entries of a directory is that of a listing. -/
lemma names_relist {listed : List String} (h : listed.Perm (tree.names directory)) :
    (tree.relist directory listed).names directory = listed := by
  have hnodup : listed.Nodup := h.nodup_iff.mpr nodup_names
  have hfront : listed.filterMap (fun name =>
      ((tree.at? (name :: directory)).map fun node => (name :: directory, node)).bind
        (nameIn directory)) = listed := by
    refine (List.filterMap_congr fun name hname => ?_).trans List.filterMap_some
    obtain ⟨node, hnode⟩ := Option.isSome_iff_exists.mp (mem_names_iff.mp (h.mem_iff.mp hname))
    simp [hnode, nameIn]
  have hrest : (tree.entries.filterMap (nameIn directory)).removeAll listed = [] := by
    rw [List.removeAll, List.filter_eq_nil_iff]
    intro name hname
    simpa using h.mem_iff.mpr (List.mem_eraseDups.mpr hname)
  rw [names_eq, relist, List.filterMap_append, List.filterMap_filterMap, hfront,
    List.eraseDups_append, eraseDups_eq_self hnodup, hrest, List.eraseDups_nil, List.append_nil]

end Tree

end SnapshotSuite
