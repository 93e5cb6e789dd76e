import SnapshotSuite.Proofs.Tree.Walk

/-!
# The way of a path

The walk of a path passes one location after another: its `Workspace.way`. What the path leads to
depends on what stands there, and on nothing else in the tree. If it leads anywhere, directories stand
on its way up to the last location, so anything else can be on the way only as its end.
-/

namespace SnapshotSuite

namespace Workspace

variable {w w' : Workspace} {tree tree' : Tree} {places : Set Location} {place final : Location}
  {path other : Path} {paths : List Path} {names : List String}

/-- The locations that a path passes, the first and the last included. -/
def way (w : Workspace) (path : Path) : List Location :=
  (Path.components path).scanl advance (w.origin path)

/-- A path leads neither to the place of another one nor through it. -/
def Apart (w : Workspace) (other path : Path) : Prop :=
  w.place other ∉ w.way path

/-- The places to which some paths lead. -/
def placesOf (w : Workspace) (paths : List Path) : Set Location :=
  {place | ∃ path ∈ paths, w.place path = place}

/-- Two workspaces in which relative paths start in the same directory and the same stands at every
location outside some places. At the places anything may come or go, directories as well. -/
structure ChangedAt (places : Set Location) (w w' : Workspace) : Prop where
  /-- Relative paths start in the same directory. -/
  cwd : w'.cwd = w.cwd
  /-- Outside the places there is no difference. -/
  at? : ∀ place ∉ places, w'.tree.at? place = w.tree.at? place

/-- A way ends at the place of its path. -/
lemma place_mem_way : w.place path ∈ w.way path :=
  List.mem_of_getLast? List.getLast?_scanl

/-- A walk succeeds in both of two trees, or in neither, if the same stands at all locations that it
passes. -/
lemma walks_congr_of_scanl
    (h : ∀ location ∈ names.scanl advance place, tree'.at? location = tree.at? location) :
    Walks tree' place names ↔ Walks tree place names := by
  induction names generalizing place with
  | nil => rfl
  | cons name names ih =>
    rw [List.scanl_cons, List.forall_mem_cons] at h
    obtain ⟨hplace, hrest⟩ := h
    rw [Walks, Walks, ih hrest, Enters, Enters, hplace]
    by_cases hname : name = "." ∨ name = ".."
    · rcases hname with rfl | rfl <;> simp
    have hadvance : advance place name = name :: place := by
      rw [advance, if_neg fun h => hname (.inl h), if_neg fun h => hname (.inr h)]
    have hnext : name :: place ∈ names.scanl advance (advance place name) :=
      hadvance ▸ List.mem_of_head? List.head?_scanl
    rw [hrest _ hnext]

/-- A walk that succeeds passes directories until it ends. -/
lemma eq_or_directory_of_mem_scanl (hwalks : Walks tree place names)
    (hfinal : final ∈ names.scanl advance place) :
    final = names.foldl advance place ∨ tree.at? final = some .directory := by
  induction names generalizing place with
  | nil => exact .inl (by simpa using hfinal)
  | cons name names ih =>
    rw [List.scanl_cons, List.mem_cons] at hfinal
    rcases hfinal with rfl | hfinal
    · exact .inr hwalks.1.1
    · exact ih hwalks.2 hfinal

/-- What a path leads to does not change with what stands off its way. -/
lemma ChangedAt.node?_eq (h : ChangedAt places w w') (hway : ∀ place ∈ w.way path, place ∉ places) :
    w'.node? path = w.node? path := by
  have horigin : w'.origin path = w.origin path := by rw [origin, origin, h.cwd]
  have hplace : w'.place path = w.place path := by
    rw [place_eq_foldl, place_eq_foldl, horigin]
  have hat : ∀ place ∈ w.way path, w'.tree.at? place = w.tree.at? place :=
    fun place hmem => h.at? place (hway place hmem)
  ext node
  rw [node?_eq_some_iff, node?_eq_some_iff, Leads, Leads, horigin, hplace, walks_congr_of_scanl hat,
    hat _ place_mem_way]

/-- Changes at the places of other paths do not show at a path that is apart from them. -/
lemma ChangedAt.node?_eq_of_apart (h : ChangedAt (placesOf w paths) w w')
    (hapart : ∀ other ∈ paths, w.Apart other path) : w'.node? path = w.node? path := by
  refine h.node?_eq fun place hmem => ?_
  rintro ⟨other, hother, rfl⟩
  exact hapart other hother hmem

/-- Where no directory stands, a path that leads anywhere is apart from every other file than its
own. -/
lemma apart_iff_of_isPresent (hpath : w.isPresent path = true)
    (hother : w.tree.at? (w.place other) ≠ some .directory) :
    w.Apart other path ↔ w.place other ≠ w.place path := by
  obtain ⟨node, hnode⟩ := Option.isSome_iff_exists.mp hpath
  obtain ⟨⟨-, hwalks, -⟩, -⟩ := node?_eq_some_iff.mp hnode
  constructor
  · intro hapart heq
    exact hapart (heq ▸ place_mem_way)
  · intro hne hmem
    rcases eq_or_directory_of_mem_scanl hwalks hmem with heq | hdirectory
    · exact hne heq
    · exact hother hdirectory

end Workspace

end SnapshotSuite
