import Mathlib.Data.List.Sort
import Mathlib.Data.Set.Subsingleton
import SnapshotSuite.Proofs.Fixture.Loading
import SnapshotSuite.Proofs.Text.ByteOrder

/-!
# The input of a fixture

An input is a regular file that is called `input`, alone or with one extension. Loading goes by the
set of the inputs of a directory and by nothing else: none is missing, one is the input, and several
are ambiguous and named in the order of their bytes. In which order the entries of the directory are
listed makes no difference.
-/

namespace SnapshotSuite

open Workspace

variable {w : Workspace} {base path : Path} {dir : FixtureDir} {fixture : Fixture}
  {name : String} {names more : List String} {members : Set String} {error : FixtureError}

/-! ### Sets of names, listed -/

/-- The names are those of a set, each of them once, in the order of their bytes. -/
structure ListsInOrder (names : List String) (members : Set String) : Prop where
  /-- Every member is listed, and nothing else. -/
  mem_iff : ∀ name, name ∈ names ↔ name ∈ members
  /-- What is listed later is greater. -/
  pairwise : names.Pairwise fun first second => Utf8.bytesOf first < Utf8.bytesOf second

namespace ListsInOrder

/-- There is only one such list of a set. -/
lemma unique (h : ListsInOrder names members) (h' : ListsInOrder more members) : names = more := by
  have hlt : ∀ {first second : String}, Utf8.bytesOf first < Utf8.bytesOf second →
      first < second := Utf8.bytesOf_lt_bytesOf_iff.mp
  exact (h.pairwise.imp hlt).eq_of_mem_iff (h'.pairwise.imp hlt) fun name =>
    (h.mem_iff name).trans (h'.mem_iff name).symm

lemma eq_nil_iff (h : ListsInOrder names members) : names = [] ↔ members = ∅ := by
  constructor
  · rintro rfl
    exact Set.eq_empty_of_forall_notMem fun name hname =>
      List.not_mem_nil ((h.mem_iff name).mpr hname)
  · rintro rfl
    exact h.unique ⟨by simp, .nil⟩

lemma eq_singleton_iff (h : ListsInOrder names members) : names = [name] ↔ members = {name} := by
  constructor
  · rintro rfl
    ext other
    rw [← h.mem_iff, List.mem_singleton, Set.mem_singleton_iff]
  · rintro rfl
    exact h.unique ⟨by simp, List.pairwise_singleton _ _⟩

/-- A list of at least two names is that of a set with different members. -/
lemma nontrivial_of_cons_cons {first second : String}
    (h : ListsInOrder (first :: second :: names) members) : members.Nontrivial := by
  have hlt := List.rel_of_pairwise_cons h.pairwise List.mem_cons_self
  refine ⟨first, (h.mem_iff first).mp List.mem_cons_self, second,
    (h.mem_iff second).mp (List.mem_cons_of_mem _ List.mem_cons_self), ?_⟩
  rintro rfl
  exact List.lt_irrefl _ hlt

end ListsInOrder

/-- Sorting lists a set in order, whatever the order in which its members came. -/
lemma listsInOrder_sortNames (hnodup : names.Nodup) (hmem : ∀ name, name ∈ names ↔ name ∈ members) :
    ListsInOrder (sortNames names) members where
  mem_iff name := by rw [mem_sortNames, hmem]
  pairwise := (pairwise_lt_sortNames hnodup).imp Utf8.bytesOf_lt_bytesOf_iff.mpr

namespace Fixture

/-- The name of an input is `input`, or `input.` with an extension behind it that has no dot and may
be empty. -/
def IsInputName (name : String) : Prop :=
  name = "input" ∨ ∃ extension : String, '.' ∉ extension.toList ∧ name = "input." ++ extension

/-- The inputs of a directory: the regular files in it that have the name of one. -/
def inputs (w : Workspace) (base : Path) : Set String :=
  {name | name ∈ w.tree.names (w.place base) ∧ w.isFile (Path.join base name) = true ∧
    IsInputName name}

lemma stem_eq_input_iff : Path.stem name = "input" ↔ IsInputName name :=
  Path.stem_eq_iff (by decide) (by decide)

/-- The inputs are the regular files that stand in the directory in the tree and have the name of one,
except where a name or the path joined with it is too long for the system or has a NUL. -/
lemma mem_inputs_iff_at? (hnamed : w.tree.WellNamed) (hbase : w.isDirectory base = true) :
    name ∈ inputs w base ↔ IsInputName name ∧
      (∃ content, w.tree.at? (name :: w.place base) = some (.file content)) ∧
        Path.Usable (Path.join base name) ∧ Utf8.size name.toList ≤ 255 := by
  constructor
  · rintro ⟨hmem, hfile, hinput⟩
    obtain ⟨content, hnode⟩ := isFile_iff.mp hfile
    obtain ⟨hat, hlong⟩ := (node?_join_iff hbase (hnamed.isName hmem)).mp hnode
    exact ⟨hinput, ⟨content, hat⟩, hlong⟩
  · rintro ⟨hinput, ⟨content, hat⟩, hlong⟩
    have hmem : name ∈ w.tree.names (w.place base) := by
      rw [Tree.mem_names_iff, hat]
      rfl
    have hnode := (node?_join_iff hbase (hnamed.isName hmem)).mpr ⟨hat, hlong⟩
    exact ⟨hmem, isFile_iff.mpr ⟨content, hnode⟩, hinput⟩

instance : DecidablePred IsInputName := fun _ => decidable_of_iff _ stem_eq_input_iff

/-! ### Looking for the input -/

lemma mem_inputs_iff (hlisted : names.Perm (w.tree.names (w.place base))) :
    name ∈ inputs w base ↔
      name ∈ names.filter fun name => w.isFile (Path.join base name) && Path.stem name == "input" := by
  rw [List.mem_filter, hlisted.mem_iff, Bool.and_eq_true, beq_iff_eq, stem_eq_input_iff]
  rfl

lemma inputs_eq_empty (h : ((w.tree.names (w.place base)).filter fun name =>
    w.isFile (Path.join base name) && Path.stem name == "input") = []) : inputs w base = ∅ := by
  refine Set.eq_empty_of_forall_notMem fun name hname => ?_
  rw [mem_inputs_iff (.refl _), h] at hname
  cases hname

/-- If one entry is a file that is called like an input, it is the only one. -/
lemma inputs_eq_singleton (h : ((w.tree.names (w.place base)).filter fun name =>
    w.isFile (Path.join base name) && Path.stem name == "input") = [name]) :
    inputs w base = {name} := by
  ext other
  rw [mem_inputs_iff (.refl _), h, List.mem_singleton, Set.mem_singleton_iff]

/-- The candidates are the inputs, in whatever order the directory was listed. -/
lemma listsInOrder_candidates (hlisted : names.Perm (w.tree.names (w.place base))) :
    ListsInOrder (candidates w base names) (inputs w base) := by
  have hnodup : names.Nodup := hlisted.nodup_iff.mpr Tree.nodup_names
  exact listsInOrder_sortNames (hnodup.filter _) fun name => (mem_inputs_iff hlisted).symm

/-- Looking for the input ends in one of three ways, and the number of inputs says in which. -/
lemma inputName_cases (hbase : w.isDirectory base = true) :
    (inputs w base = ∅ ∧ inputName w base = .error (.missingInput base)) ∨
      (∃ name, inputs w base = {name} ∧ inputName w base = .ok name) ∨
      ∃ names, (inputs w base).Nontrivial ∧ ListsInOrder names (inputs w base) ∧
        inputName w base = .error (.ambiguousInput base names) := by
  have hlists : ListsInOrder _ (inputs w base) := listsInOrder_candidates (.refl _)
  rw [inputName_eq hbase]
  match hcandidates : candidates w base (w.tree.names (w.place base)) with
  | [] => exact .inl ⟨hlists.eq_nil_iff.mp hcandidates, rfl⟩
  | [name] => exact .inr (.inl ⟨name, hlists.eq_singleton_iff.mp hcandidates, rfl⟩)
  | first :: second :: names =>
    rw [hcandidates] at hlists
    exact .inr (.inr ⟨_, hlists.nontrivial_of_cons_cons, hlists, rfl⟩)

lemma inputName_eq_missing_iff (hbase : w.isDirectory base = true) :
    inputName w base = .error (.missingInput path) ↔ path = base ∧ inputs w base = ∅ := by
  obtain ⟨hnone, h⟩ | ⟨name, hone, h⟩ | ⟨names, hmore, -, h⟩ := inputName_cases hbase
  · simp [h, hnone, eq_comm]
  · simp [h, hone]
  · simp [h, hmore.nonempty.ne_empty]

lemma inputName_eq_ambiguous_iff (hbase : w.isDirectory base = true) :
    inputName w base = .error (.ambiguousInput path names) ↔
      path = base ∧ (inputs w base).Nontrivial ∧ ListsInOrder names (inputs w base) := by
  obtain ⟨hnone, h⟩ | ⟨name, hone, h⟩ | ⟨listed, hmore, hlists, h⟩ := inputName_cases hbase
  · simp [h, hnone]
  · simp [h, hone]
  · have hunique : listed = names ↔ ListsInOrder names (inputs w base) :=
      ⟨fun heq => heq ▸ hlists, hlists.unique⟩
    simp [h, hmore, hunique, eq_comm]

/-- An input is the only one exactly if it is found. -/
lemma inputName_eq_ok_iff_inputs (hbase : w.isDirectory base = true) :
    inputName w base = .ok name ↔ inputs w base = {name} := by
  rw [inputName_eq_ok_iff hbase]
  exact (listsInOrder_candidates (.refl _)).eq_singleton_iff

/-! ### Loading -/

/-- The errors that blame the input, as opposed to a file or a document. -/
inductive IsInputFault : FixtureError → Prop
  | missingInput (dir : Path) : IsInputFault (.missingInput dir)
  | ambiguousInput (dir : Path) (names : List String) : IsInputFault (.ambiguousInput dir names)

/-- Reading a document never blames the input. -/
lemma not_isInputFault_of_readOptional (h : readOptional w path = .error error) :
    ¬IsInputFault error := by
  rw [readOptional_eq] at h
  split at h
  · split at h
    · cases h
      rintro ⟨⟩
    · split at h <;> cases h
      rintro ⟨⟩
  · cases h

/-- Loading blames the input exactly if looking for it does. -/
lemma load_eq_error_iff (hfault : IsInputFault error) :
    load w dir = .error error ↔ inputName w dir.path = .error error := by
  constructor
  · intro h
    obtain ⟨cause, hload, hcause⟩ | ⟨fixture, hload, -⟩ := load_cases w dir
    · obtain rfl : cause = error := Except.error.inj (hload.symm.trans h)
      rcases hcause with hinput | hhost | hpayload
      · exact hinput
      · exact absurd hfault (not_isInputFault_of_readOptional hhost)
      · exact absurd hfault (not_isInputFault_of_readOptional hpayload)
    · cases hload.symm.trans h
  · intro h
    rw [load, h]
    rfl

/-- The extension of an input: none of `input`, and of any other what follows the dot, with it. -/
def HasExtension (name extension : String) : Prop :=
  (name = "input" ∧ extension = "") ∨ ∃ rest : String, '.' ∉ rest.toList ∧
    name = "input." ++ rest ∧ extension = "." ++ rest

lemma dottedExtension_append_dot {rest : String} (h : '.' ∉ rest.toList) :
    dottedExtension ("input." ++ rest) = "." ++ rest := by
  have hne : "input".toList ≠ [] := by decide
  have hextension : Path.extension? ("input." ++ rest) = some rest :=
    Path.extension?_append_dot hne h
  rw [dottedExtension, hextension]

/-- An input has one extension. -/
lemma hasExtension_iff {extension : String} :
    HasExtension name extension ↔ IsInputName name ∧ dottedExtension name = extension := by
  constructor
  · rintro (⟨rfl, rfl⟩ | ⟨rest, hrest, rfl, rfl⟩)
    · exact ⟨.inl rfl, by decide⟩
    · exact ⟨.inr ⟨rest, hrest, rfl⟩, dottedExtension_append_dot hrest⟩
  · rintro ⟨rfl | ⟨rest, hrest, rfl⟩, rfl⟩
    · exact .inl ⟨rfl, by decide⟩
    · exact .inr ⟨rest, hrest, rfl, dottedExtension_append_dot hrest⟩

/-- Loading goes by the inputs of a directory. It misses one exactly if there is none, calls them
ambiguous exactly if there are several and names them all, and otherwise takes the only one there is.
A directory is no input, nor is a file of another name, and a workspace with the same files that are
listed in another order gives the same. An input is what stands in the directory in the tree, unless
its name is too long for the system or makes the path too long. -/
theorem load_finds_input (hnamed : w.tree.WellNamed) (hdir : w.isDirectory dir.path = true) :
    (∀ path, load w dir = .error (.missingInput path) ↔
        path = dir.path ∧ inputs w dir.path = ∅) ∧
      (∀ path names, load w dir = .error (.ambiguousInput path names) ↔
        path = dir.path ∧ (inputs w dir.path).Nontrivial ∧
          ListsInOrder names (inputs w dir.path)) ∧
      ((inputs w dir.path).Nontrivial →
        ∃ names, load w dir = .error (.ambiguousInput dir.path names)) ∧
      (∀ name, inputs w dir.path = {name} ↔ inputName w dir.path = .ok name) ∧
      (∀ fixture, load w dir = .ok fixture → ∃ name, inputs w dir.path = {name} ∧
        fixture.inputPath = Path.join dir.path name ∧ HasExtension name fixture.extension) ∧
      (∀ name, w.isDirectory (Path.join dir.path name) = true → name ∉ inputs w dir.path) ∧
      (∀ name ∈ ["inputs.ts", ".input", "Input.js", "input.test.js"],
        name ∉ inputs w dir.path) ∧
      (∀ w' : Workspace, w'.tree.WellNamed → AgreesOff ∅ w w' → load w' dir = load w dir) ∧
      ∀ name, name ∈ inputs w dir.path ↔ IsInputName name ∧
        (∃ content, w.tree.at? (name :: w.place dir.path) = some (.file content)) ∧
          Path.Usable (Path.join dir.path name) ∧ Utf8.size name.toList ≤ 255 := by
  have hambiguous : ∀ path names, load w dir = .error (.ambiguousInput path names) ↔
      path = dir.path ∧ (inputs w dir.path).Nontrivial ∧
        ListsInOrder names (inputs w dir.path) := by
    intro path names
    rw [load_eq_error_iff (.ambiguousInput path names), inputName_eq_ambiguous_iff hdir]
  refine ⟨fun path => ?missing, hambiguous, fun hmore => ?several, fun name => ?single,
    fun fixture hload => ?loaded, fun name hdirectory => ?directory, ?named, ?reordered,
    fun name => mem_inputs_iff_at? hnamed hdir⟩
  case missing => rw [load_eq_error_iff (.missingInput path), inputName_eq_missing_iff hdir]
  case several =>
    exact ⟨_, (hambiguous _ _).mpr ⟨rfl, hmore, listsInOrder_candidates (.refl _)⟩⟩
  case single => rw [inputName_eq_ok_iff_inputs hdir]
  case loaded =>
    obtain ⟨name, hname, hpath, hextension⟩ := (load_eq_ok_iff.mp hload).input
    have hsingle := (inputName_eq_ok_iff_inputs hdir).mp hname
    have hinput : IsInputName name := (hsingle ▸ Set.mem_singleton name : name ∈ inputs w _).2.2
    exact ⟨name, hsingle, hpath, hasExtension_iff.mpr ⟨hinput, hextension.symm⟩⟩
  case directory =>
    rintro ⟨-, hfile, -⟩
    obtain ⟨content, hnode⟩ := isFile_iff.mp hfile
    cases hnode.symm.trans (isDirectory_iff.mp hdirectory)
  case named =>
    have hodd : ∀ name ∈ ["inputs.ts", ".input", "Input.js", "input.test.js"],
        ¬IsInputName name := by decide
    exact fun name hname hmem => hodd name hname hmem.2.2
  case reordered =>
    intro w' hnamed' hagrees
    exact load_eq (hagrees.mono (Set.empty_subset _)) hnamed hnamed' hdir

end Fixture

/-- A tree with a directory of one input among entries of other names and kinds, a directory of three
inputs and an empty directory. -/
def Workspace.mixed : Workspace where
  tree := ⟨[(["one"], .directory), (["input.js", "one"], .directory),
    (["inputs.ts", "one"], .file []), (["input.ts", "one"], .file []),
    ([".input", "one"], .file []), (["Input.js", "one"], .file []),
    (["input.test.js", "one"], .file []), (["more"], .directory), (["input.ts", "more"], .file []),
    (["input", "more"], .file []), (["input.", "more"], .file []), (["none"], .directory)], []⟩
  cwd := []

/-- The three directories have one input, several and none. -/
theorem Fixture.load_finds_input_samples :
    (∃ fixture, load .mixed ⟨"one", "one"⟩ = .ok fixture ∧ fixture.inputPath = "one/input.ts" ∧
        fixture.extension = ".ts") ∧
      load .mixed ⟨"more", "more"⟩ =
        .error (.ambiguousInput "more" ["input", "input.", "input.ts"]) ∧
      load .mixed ⟨"none", "none"⟩ = .error (.missingInput "none") := by
  have hnamed : Workspace.mixed.tree.WellNamed := by decide
  have hone : inputs .mixed "one" = {"input.ts"} := inputs_eq_singleton (by decide +kernel)
  have hmore : ∀ name, name ∈ inputs .mixed "more" ↔ name ∈ ["input.ts", "input", "input."] := by
    have hlisted : ((Workspace.mixed.tree.names (Workspace.mixed.place "more")).filter fun name =>
        Workspace.mixed.isFile (Path.join "more" name) && Path.stem name == "input") =
          ["input.ts", "input", "input."] := by
      decide +kernel
    exact fun name => by rw [mem_inputs_iff (.refl _), hlisted]
  have hnone : inputs .mixed "none" = ∅ := inputs_eq_empty (by decide +kernel)
  refine ⟨?one, ?more, ?none⟩
  case one =>
    have hdir : Workspace.mixed.isDirectory (FixtureDir.mk "one" "one").path = true := by
      decide +kernel
    obtain ⟨-, -, -, hsingle, -⟩ := load_finds_input hnamed hdir
    have hname : inputName .mixed "one" = .ok "input.ts" := (hsingle _).mp hone
    refine ⟨⟨⟨"one", "one"⟩, "one/input.ts", ".ts", none, none⟩, load_eq_ok_iff.mpr ?_, rfl, rfl⟩
    exact ⟨rfl, ⟨_, hname, by decide, by decide⟩, by rfl, by rfl⟩
  case more =>
    have hdir : Workspace.mixed.isDirectory (FixtureDir.mk "more" "more").path = true := by
      decide +kernel
    obtain ⟨-, hambiguous, -⟩ := load_finds_input hnamed hdir
    refine (hambiguous _ _).mpr ⟨rfl, ⟨"input", ?_, "input.", ?_, by decide⟩, ?_, by decide +kernel⟩
    · simp [hmore]
    · simp [hmore]
    · intro name
      simp only [hmore, List.mem_cons, List.not_mem_nil, or_false]
      tauto
  case none =>
    have hdir : Workspace.mixed.isDirectory (FixtureDir.mk "none" "none").path = true := by
      decide +kernel
    obtain ⟨hmissing, -⟩ := load_finds_input hnamed hdir
    exact (hmissing _).mpr ⟨rfl, hnone⟩

end SnapshotSuite
