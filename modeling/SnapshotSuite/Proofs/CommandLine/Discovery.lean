import SnapshotSuite.CommandLine.Execution
import SnapshotSuite.Proofs.Fixture.Input

/-!
# Discovery

Discovery lists the directories right below a root, each of them once, by the bytes of their names.
There is only one such list, so the order in which the root is enumerated does not show in it.
-/

namespace SnapshotSuite

open Workspace

variable {w w' : Workspace} {root : Path} {dirs : List FixtureDir} {error : SuiteError}
  {listed : List String}

/-- The names of the directories right below a root: the entries of the root whose paths lead to
directories. -/
def subdirectories (w : Workspace) (root : Path) : Set String :=
  {name | name ∈ w.tree.names (w.place root) ∧ w.isDirectory (Path.join root name) = true}

/-- The workspace with the entries of a directory listed in another order. -/
def Workspace.relist (w : Workspace) (directory : Path) (listed : List String) : Workspace :=
  { w with tree := w.tree.relist (w.place directory) listed }

/-- The directories below a root are those that stand right below it in the tree, except where a
name or the path joined with it is too long for the system or has a NUL. -/
lemma mem_subdirectories_iff {name : String} (hnamed : w.tree.WellNamed)
    (hroot : w.isDirectory root = true) :
    name ∈ subdirectories w root ↔ w.tree.at? (name :: w.place root) = some .directory ∧
      Path.Usable (Path.join root name) ∧ Utf8.size name.toList ≤ 255 := by
  constructor
  · rintro ⟨hmem, hdirectory⟩
    exact (node?_join_iff hroot (hnamed.isName hmem)).mp (isDirectory_iff.mp hdirectory)
  · intro h
    have hmem : name ∈ w.tree.names (w.place root) := by
      rw [Tree.mem_names_iff, h.1]
      rfl
    exact ⟨hmem, isDirectory_iff.mpr ((node?_join_iff hroot (hnamed.isName hmem)).mpr h)⟩

/-! ### The order of an enumeration -/

lemma Workspace.agreesOff_relist (w : Workspace) (directory : Path) (listed : List String) :
    AgreesOff ∅ w (w.relist directory listed) :=
  ⟨rfl, rfl, fun place => by rw [relist, Tree.at?_relist],
    fun place _ => Tree.at?_relist w.tree _ listed place⟩

/-- A directory can be enumerated in every order of its entries. -/
lemma Workspace.entries_relist (hroot : w.isDirectory root = true)
    (h : listed.Perm (w.tree.names (w.place root))) :
    (w.relist root listed).entries root = .ok listed := by
  have hagrees := agreesOff_relist w root listed
  rw [entries_eq_ok ((hagrees.isDirectory_eq root).trans hroot), hagrees.place_eq, relist,
    Tree.names_relist h]

lemma subdirectories_eq (h : AgreesOff ∅ w w') (root : Path) :
    subdirectories w' root = subdirectories w root := by
  have hat : ∀ place, w'.tree.at? place = w.tree.at? place :=
    fun place => h.at? place (Set.notMem_empty place)
  ext name
  simp only [subdirectories, Set.mem_ofPred_eq, Tree.mem_names_iff, h.place_eq, hat,
    h.isDirectory_eq]

/-! ### What is found -/

lemma discover_eq_ok_iff : discover w root = .ok dirs ↔ discover? w root = some dirs := by
  unfold discover
  split
  · next found hfound => rw [hfound, Except.ok.injEq, Option.some.injEq]
  · next hnone =>
    rw [hnone]
    exact ⟨fun h => (nomatch h), fun h => (nomatch h)⟩

lemma discover_eq_error_iff :
    discover w root = .error error ↔ error = .rootMissing root ∧ w.isDirectory root = false := by
  unfold discover discover?
  by_cases hroot : w.isDirectory root = true
  · simp [hroot, entries_eq_ok hroot]
  · simp [hroot, eq_comm]

/-- Sorting lists the directories that an enumeration of the root has. -/
lemma listsInOrder_subdirectories (w : Workspace) (root : Path) :
    ListsInOrder (sortNames ((w.tree.names (w.place root)).filter fun name =>
      w.isDirectory (Path.join root name))) (subdirectories w root) :=
  listsInOrder_sortNames (Tree.nodup_names.filter _) fun _ => List.mem_filter

/-- What is found is the ordered list of the directories below the root. -/
lemma discover_eq_ok_iff_listsInOrder :
    discover w root = .ok dirs ↔ w.isDirectory root = true ∧
      ∃ names, ListsInOrder names (subdirectories w root) ∧
        dirs = names.map fun name => ⟨name, Path.join root name⟩ := by
  rw [discover_eq_ok_iff, discover?_eq_some_iff, and_congr_right_iff]
  intro _
  constructor
  · exact fun h => ⟨_, listsInOrder_subdirectories w root, h⟩
  · rintro ⟨names, hnames, rfl⟩
    rw [hnames.unique (listsInOrder_subdirectories w root)]

lemma discover_eq (h : AgreesOff ∅ w w') (root : Path) : discover w' root = discover w root := by
  have hroot := h.isDirectory_eq root
  cases hdiscover : discover w root with
  | error error =>
    rw [discover_eq_error_iff] at hdiscover ⊢
    exact ⟨hdiscover.1, hroot.trans hdiscover.2⟩
  | ok dirs =>
    rw [discover_eq_ok_iff_listsInOrder] at hdiscover ⊢
    rw [subdirectories_eq h root]
    exact ⟨hroot.trans hdiscover.1, hdiscover.2⟩

/-- Discovery is refused exactly if the root is no directory. Otherwise it lists one fixture for every
directory right below the root and none for a file, with the path of the root joined with the name,
in the strict order of the bytes of the names, so no name stands twice. The list is the same for every
order in which the entries of the root are enumerated, and in every tree with the same files and
directories. A directory is found if it stands right below the root in the tree, unless its name is
too long for the system or makes the path too long. -/
theorem discover_canonical (w : Workspace) (root : Path) :
    (∀ error, discover w root = .error error ↔
        error = .rootMissing root ∧ w.isDirectory root = false) ∧
      (∀ error, discover w root = .error error →
        error.message = "Validation error: " ++ "Fixtures directory does not exist: " ++ root) ∧
      (∀ dirs, discover w root = .ok dirs ↔ w.isDirectory root = true ∧
        ∃ names, ListsInOrder names (subdirectories w root) ∧
          dirs = names.map fun name => ⟨name, Path.join root name⟩) ∧
      (∀ dirs, discover w root = .ok dirs → (dirs.map FixtureDir.name).Nodup) ∧
      (∀ name, w.isFile (Path.join root name) = true → name ∉ subdirectories w root) ∧
      (∀ listed, w.isDirectory root = true → listed.Perm (w.tree.names (w.place root)) →
        (w.relist root listed).entries root = .ok listed ∧
          discover (w.relist root listed) root = discover w root) ∧
      (∀ w', AgreesOff ∅ w w' → discover w' root = discover w root) ∧
      (w.tree.WellNamed → w.isDirectory root = true → ∀ name, name ∈ subdirectories w root ↔
        w.tree.at? (name :: w.place root) = some .directory ∧
          Path.Usable (Path.join root name) ∧ Utf8.size name.toList ≤ 255) := by
  refine ⟨fun error => discover_eq_error_iff, fun error herror => ?message,
    fun dirs => discover_eq_ok_iff_listsInOrder, fun dirs hdirs => ?distinct,
    fun name hfile hmem => ?file, fun listed hroot hlisted => ⟨entries_relist hroot hlisted,
      discover_eq (agreesOff_relist w root listed) root⟩, fun w' h => discover_eq h root,
    fun hnamed hroot name => mem_subdirectories_iff hnamed hroot⟩
  case message =>
    obtain ⟨rfl, -⟩ := discover_eq_error_iff.mp herror
    exact (String.append_assoc).symm
  case distinct =>
    obtain ⟨-, names, hnames, rfl⟩ := discover_eq_ok_iff_listsInOrder.mp hdirs
    have hname : FixtureDir.name ∘ (fun name => ⟨name, Path.join root name⟩) = id := rfl
    rw [List.map_map, hname, List.map_id]
    refine hnames.pairwise.imp fun hlt heq => ?_
    subst heq
    exact List.lt_irrefl _ hlt
  case file =>
    obtain ⟨content, hnode⟩ := isFile_iff.mp hfile
    cases hnode.symm.trans (isDirectory_iff.mp hmem.2)

/-- A tree with a root that has a hidden directory, an empty one, one with a file in it and a file,
listed in no order. -/
def Workspace.unsorted : Workspace where
  tree := ⟨[(["root"], .directory), (["b", "root"], .directory), (["file", "root"], .file []),
    (["input.js", "b", "root"], .file []), ([".hidden", "root"], .directory),
    (["a", "root"], .directory)], []⟩
  cwd := []

/-- The three directories are found in the order of their names, however the root is listed. A file
is no root. -/
theorem discover_canonical_sample :
    discover .unsorted "root" =
        .ok [⟨".hidden", "root/.hidden"⟩, ⟨"a", "root/a"⟩, ⟨"b", "root/b"⟩] ∧
      discover (Workspace.relist .unsorted "root" ["file", "a", ".hidden", "b"]) "root" =
        discover .unsorted "root" ∧
      discover .unsorted "root/file" = .error (.rootMissing "root/file") := by
  have hroot : Workspace.unsorted.isDirectory "root" = true := by decide +kernel
  have hnames : Workspace.unsorted.tree.names (Workspace.unsorted.place "root") =
      ["b", "file", ".hidden", "a"] := by decide +kernel
  have hdirectories : ∀ name, name ∈ subdirectories .unsorted "root" ↔
      name ∈ ["b", "file", ".hidden", "a"].filter fun name =>
        Workspace.unsorted.isDirectory (Path.join "root" name) := by
    intro name
    rw [subdirectories, Set.mem_ofPred_eq, hnames, List.mem_filter]
  have hfound : ["b", "file", ".hidden", "a"].filter (fun name =>
      Workspace.unsorted.isDirectory (Path.join "root" name)) = ["b", ".hidden", "a"] := by
    decide +kernel
  refine ⟨?found, ?relisted, ?refused⟩
  case found =>
    obtain ⟨-, -, hfinds, -⟩ := discover_canonical .unsorted "root"
    refine (hfinds _).mpr ⟨hroot, [".hidden", "a", "b"], ⟨fun name => ?_, by decide +kernel⟩,
      by decide⟩
    rw [hdirectories, hfound]
    simp only [List.mem_cons, List.not_mem_nil, or_false]
    tauto
  case relisted =>
    obtain ⟨-, -, -, -, -, hrelist, -⟩ := discover_canonical .unsorted "root"
    exact (hrelist _ hroot (by rw [hnames]; decide)).2
  case refused =>
    obtain ⟨hrefuses, -⟩ := discover_canonical .unsorted "root/file"
    exact (hrefuses _).mpr ⟨rfl, by decide +kernel⟩

end SnapshotSuite
