import Mathlib.Data.List.Nodup
import SnapshotSuite.Fixture.Discovery
import SnapshotSuite.Proofs.Tree.Frame

/-!
# Which fixtures are found

In a tree whose names are all proper the fixtures below a root are the names at which a directory
stands there, each once and in order. Their snapshots then stand at different places, all of them
called `output.js`, and writing files of that name does not change which fixtures are found.
-/

namespace SnapshotSuite

open Workspace

variable {w w' : Workspace} {places : Set Location} {root : Path} {dir other : FixtureDir}
  {dirs : List FixtureDir} {name : String} {names more : List String}

/-! ### Sorted names -/

lemma mem_sortNames : name ∈ sortNames names ↔ name ∈ names :=
  List.mem_mergeSort

lemma pairwise_sortNames (names : List String) : (sortNames names).Pairwise (· ≤ ·) := by
  have htrans : ∀ a b c : String, decide (a ≤ b) → decide (b ≤ c) → decide (a ≤ c) := by
    intro a b c hab hbc
    exact decide_eq_true (Std.le_trans (of_decide_eq_true hab) (of_decide_eq_true hbc))
  have htotal : ∀ a b : String, decide (a ≤ b) || decide (b ≤ a) := fun a b => by
    simpa using Std.le_total
  exact (List.pairwise_mergeSort htrans htotal names).imp of_decide_eq_true

/-- Names without repetitions are in strict order once they are sorted. -/
lemma pairwise_lt_sortNames (h : names.Nodup) : (sortNames names).Pairwise (· < ·) := by
  have hnodup : (sortNames names).Nodup := (List.mergeSort_perm names _).nodup_iff.mpr h
  exact ((pairwise_sortNames names).and hnodup).imp fun ⟨hle, hne⟩ =>
    Std.lt_of_le_of_ne hle hne

/-- Sorting forgets in which order names without repetitions were listed. -/
lemma sortNames_eq_of_mem_iff (hnames : names.Nodup) (hmore : more.Nodup)
    (h : ∀ name, name ∈ names ↔ name ∈ more) : sortNames names = sortNames more := by
  have hperm : names.Perm more := (List.perm_ext_iff_of_nodup hnames hmore).mpr h
  refine List.Perm.eq_of_pairwise (fun _ _ _ _ => Std.le_antisymm) (pairwise_sortNames names)
    (pairwise_sortNames more) ?_
  exact (List.mergeSort_perm names _).trans (hperm.trans (List.mergeSort_perm more _).symm)

/-! ### Fixtures below a root -/

/-- The directory has a proper name and stands right below the root. -/
structure FixtureDir.IsBelow (w : Workspace) (root : Path) (dir : FixtureDir) : Prop where
  isName : Path.IsName dir.name
  path : dir.path = Path.join root dir.name
  isDirectory : w.isDirectory dir.path = true

lemma discover?_eq_some_iff :
    discover? w root = some dirs ↔ w.isDirectory root = true ∧
      dirs = (sortNames ((w.tree.names (w.place root)).filter fun name =>
        w.isDirectory (Path.join root name))).map fun name => ⟨name, Path.join root name⟩ := by
  unfold discover?
  by_cases hroot : w.isDirectory root = true
  · simp [hroot, entries_eq_ok hroot, eq_comm]
  · simp [hroot]

/-- What is found below a root whose directories are listed in order is just this list. -/
lemma discover?_eq_some_of_sorted (listed : List String) (hroot : w.isDirectory root = true)
    (hlisted : ((w.tree.names (w.place root)).filter fun name =>
      w.isDirectory (Path.join root name)) = listed)
    (hsorted : listed.Pairwise fun name other => decide (name ≤ other) = true) :
    discover? w root = some (listed.map fun name => ⟨name, Path.join root name⟩) := by
  rw [discover?_eq_some_iff, hlisted]
  exact ⟨hroot, by rw [sortNames, List.mergeSort_of_pairwise hsorted]⟩

/-- A directory of a proper name is an entry of the root. -/
lemma mem_names_of_isDirectory_join (hroot : w.isDirectory root = true) (hname : Path.IsName name)
    (hdirectory : w.isDirectory (Path.join root name) = true) :
    name ∈ w.tree.names (w.place root) := by
  have hat := ((node?_join_iff hroot hname).mp (isDirectory_iff.mp hdirectory)).1
  rw [Tree.mem_names_iff, hat]
  rfl

/-- What is found is exactly what stands right below the root. -/
lemma mem_discover?_iff (hnamed : w.tree.WellNamed) (h : discover? w root = some dirs) :
    dir ∈ dirs ↔ dir.IsBelow w root := by
  obtain ⟨hroot, rfl⟩ := discover?_eq_some_iff.mp h
  simp only [List.mem_map, mem_sortNames, List.mem_filter]
  constructor
  · rintro ⟨name, ⟨hname, hdirectory⟩, rfl⟩
    exact ⟨hnamed.isName hname, rfl, hdirectory⟩
  · rintro ⟨hname, hpath, hdirectory⟩
    rw [hpath] at hdirectory
    refine ⟨dir.name, ⟨mem_names_of_isDirectory_join hroot hname hdirectory, hdirectory⟩, ?_⟩
    rw [← hpath]

lemma isDirectory_of_discover? (h : discover? w root = some dirs) : w.isDirectory root = true :=
  (discover?_eq_some_iff.mp h).1

lemma isBelow_of_discover? (hnamed : w.tree.WellNamed) (h : discover? w root = some dirs) :
    ∀ dir ∈ dirs, dir.IsBelow w root :=
  fun _ hdir => (mem_discover?_iff hnamed h).mp hdir

namespace FixtureDir.IsBelow

lemma agree (h : dir.IsBelow w root) (hagrees : AgreesOff places w w') : dir.IsBelow w' root :=
  ⟨h.isName, h.path, (hagrees.isDirectory_eq _).trans h.isDirectory⟩

/-- Directories right below one root are told apart by their names. -/
lemma eq_of_name_eq (h : dir.IsBelow w root) (hother : other.IsBelow w root)
    (hname : dir.name = other.name) : dir = other := by
  cases dir
  cases other
  cases hname
  rw [FixtureDir.mk.injEq]
  exact ⟨rfl, h.path.trans hother.path.symm⟩

end FixtureDir.IsBelow

/-! ### Places of snapshots -/

/-- The places of all files that are called like a snapshot. -/
def snapshotPlaces : Set Location :=
  {place | place.head? = some "output.js"}

lemma isName_snapshot : Path.IsName "output.js" := by decide

lemma place_snapshotPath (h : w.isDirectory dir.path = true) :
    w.place dir.snapshotPath = "output.js" :: w.place dir.path :=
  place_join (toList_ne_nil_of_isDirectory h) isName_snapshot

lemma place_snapshotPath_mem (h : w.isDirectory dir.path = true) :
    w.place dir.snapshotPath ∈ snapshotPlaces := by
  simp [snapshotPlaces, place_snapshotPath h]

/-- Different fixtures keep their snapshots at different places. -/
lemma FixtureDir.IsBelow.eq_of_place_eq (hroot : w.isDirectory root = true)
    (h : dir.IsBelow w root) (hother : other.IsBelow w root)
    (hplace : w.place dir.snapshotPath = w.place other.snapshotPath) : dir = other := by
  have hne := toList_ne_nil_of_isDirectory hroot
  rw [place_snapshotPath h.isDirectory, place_snapshotPath hother.isDirectory, h.path, hother.path,
    place_join hne h.isName, place_join hne hother.isName] at hplace
  exact h.eq_of_name_eq hother (by simpa using hplace)

/-- The fixtures that are found do not depend on what files stand where. -/
lemma discover?_eq (hagrees : AgreesOff places w w') (hnamed : w.tree.WellNamed)
    (hnamed' : w'.tree.WellNamed) : discover? w' root = discover? w root := by
  by_cases hroot : w.isDirectory root = true
  · have hroot' := (hagrees.isDirectory_eq root).trans hroot
    have hnames : ∀ name,
        name ∈ (w'.tree.names (w'.place root)).filter (fun name =>
            w'.isDirectory (Path.join root name)) ↔
          name ∈ (w.tree.names (w.place root)).filter (fun name =>
            w.isDirectory (Path.join root name)) := by
      intro name
      simp only [List.mem_filter, hagrees.isDirectory_eq, and_congr_left_iff]
      intro hdirectory
      constructor
      · exact fun hmem =>
          mem_names_of_isDirectory_join hroot (hnamed'.isName hmem) hdirectory
      · exact fun hmem => mem_names_of_isDirectory_join hroot' (hnamed.isName hmem)
          ((hagrees.isDirectory_eq _).trans hdirectory)
    rw [discover?_eq_some_iff.mpr ⟨hroot', rfl⟩, discover?_eq_some_iff.mpr ⟨hroot, rfl⟩,
      sortNames_eq_of_mem_iff (Tree.nodup_names.filter _) (Tree.nodup_names.filter _) hnames]
  · simp [discover?, hagrees.isDirectory_eq, hroot]

/-! ### A small suite -/

/-- A tree with three fixtures below `suite`: one that is complete but for its snapshot, one without
an input, and one with a directory in place of its snapshot. -/
def Workspace.sample : Workspace where
  tree := ⟨[(["suite"], .directory), (["a", "suite"], .directory),
    (["input.js", "a", "suite"], .file (Utf8.bytesOf "a")), (["b", "suite"], .directory),
    (["c", "suite"], .directory), (["input.tsx", "c", "suite"], .file (Utf8.bytesOf "c")),
    (["output.js", "c", "suite"], .directory)], []⟩
  cwd := []

/-- The fixtures of the small suite. -/
def FixtureDir.samples : List FixtureDir :=
  [⟨"a", "suite/a"⟩, ⟨"b", "suite/b"⟩, ⟨"c", "suite/c"⟩]

lemma wellNamed_sample : Workspace.sample.tree.WellNamed := by decide

lemma discover?_sample : discover? .sample "suite" = some FixtureDir.samples :=
  discover?_eq_some_of_sorted ["a", "b", "c"] (by decide +kernel) (by decide +kernel) (by decide)

end SnapshotSuite
