import Mathlib.Data.List.Nodup
import Mathlib.Data.Set.Basic
import SnapshotSuite.Proofs.Tree.Lookup
import SnapshotSuite.Tree.Access

/-!
# Walking a path

Where a path leads is fixed by its text and the working directory alone: `Workspace.place`. The tree
only decides whether the walk gets there. `Workspace.Leads` says that it does, and everything that
can be read at a path is then what stands at its place.
-/

namespace SnapshotSuite

namespace Path

/-- The system takes the path: it is neither empty nor too long, and has no NUL. -/
def Usable (path : Path) : Prop :=
  '\x00' ∉ path.toList ∧ path.toList ≠ [] ∧ Utf8.size path.toList ≤ 4095

end Path

namespace Workspace

variable {w : Workspace} {tree tree' : Tree} {place final : Location} {path : Path}
  {name : String} {names : List String} {node : Node} {content : Bytes}

/-- Where one name leads from a location, if it leads anywhere. -/
def advance (place : Location) (name : String) : Location :=
  if name = "." then place else if name = ".." then place.tail else name :: place

/-- The location at which a path starts. -/
def origin (w : Workspace) (path : Path) : Location :=
  if Path.isAbsolute path then [] else w.cwd

/-- A name leads on from a location: a directory stands there and has an entry of that name, unless
the name stays in the directory or goes up. -/
def Enters (tree : Tree) (place : Location) (name : String) : Prop :=
  tree.at? place = some .directory ∧
    (name = "." ∨ name = ".." ∨ Utf8.size name.toList ≤ 255 ∧ (tree.at? (name :: place)).isSome)

/-- Every one of some names leads on. -/
def Walks (tree : Tree) : Location → List String → Prop
  | _, [] => True
  | place, name :: names => Enters tree place name ∧ Walks tree (advance place name) names

/-- A path can be walked to its end; one that ends in a slash has to end at a directory. -/
def Leads (w : Workspace) (path : Path) : Prop :=
  Path.Usable path ∧ Walks w.tree (w.origin path) (Path.components path) ∧
    (Path.endsInSlash path → w.tree.at? (w.place path) = some .directory)

/-! ### The steps of a walk -/

lemma place_eq_foldl : w.place path = (Path.components path).foldl advance (w.origin path) := rfl

/-- One step succeeds exactly if its name leads on. -/
lemma step_eq_ok_iff :
    step tree place name = .ok final ↔ Enters tree place name ∧ final = advance place name := by
  unfold step Enters advance
  by_cases hplace : tree.at? place = some .directory
  · by_cases hdot : name = "."
    · simp [hplace, hdot, @eq_comm _ final]
    · by_cases hup : name = ".."
      · simp [hplace, hup, @eq_comm _ final]
      · by_cases hlong : 255 < Utf8.size name.toList
        · simp [hplace, hdot, hup, hlong]
        · cases hat : tree.at? (name :: place) with
          | none => simp [hplace, hdot, hup, hlong]
          | some node =>
            simp [hplace, hdot, hup, hlong, Nat.not_lt.mp hlong, @eq_comm _ final]
  · simp [hplace]

/-- A walk succeeds exactly if all its names lead on, and then ends where they lead. -/
lemma foldlM_step_eq_ok_iff :
    names.foldlM (step tree) place = .ok final ↔
      Walks tree place names ∧ final = names.foldl advance place := by
  induction names generalizing place with
  | nil => simp [Walks, pure, Except.pure, eq_comm]
  | cons name names ih =>
    rw [List.foldlM_cons, List.foldl_cons, Walks]
    cases hstep : step tree place name with
    | error cause =>
      have hno : ¬ Enters tree place name := fun h => by
        rw [step_eq_ok_iff.mpr ⟨h, rfl⟩] at hstep
        cases hstep
      simp [bind, Except.bind, hno]
    | ok next =>
      obtain ⟨henters, rfl⟩ := step_eq_ok_iff.mp hstep
      simp [bind, Except.bind, henters, ih]

lemma walks_append {more : List String} :
    Walks tree place (names ++ more) ↔
      Walks tree place names ∧ Walks tree (names.foldl advance place) more := by
  induction names generalizing place with
  | nil => simp [Walks]
  | cons name names ih => simp [Walks, ih, and_assoc]

/-- In two trees with the same directories a walk that ends at something in both succeeds in both.
The names before the last have to lead to directories, so only the end needs the assumption. -/
lemma walks_congr
    (hdirectory : ∀ place, tree'.at? place = some .directory ↔ tree.at? place = some .directory)
    (hfinal : (tree'.at? (names.foldl advance place)).isSome ↔
      (tree.at? (names.foldl advance place)).isSome) :
    Walks tree' place names ↔ Walks tree place names := by
  induction names generalizing place with
  | nil => rfl
  | cons name names ih =>
    rw [Walks, Walks, ih hfinal, and_congr_left_iff]
    intro hwalks
    rw [Enters, Enters, hdirectory, and_congr_right_iff]
    intro _
    by_cases hname : name = "." ∨ name = ".."
    · rcases hname with rfl | rfl <;> simp
    have hadvance : advance place name = name :: place := by
      rw [advance, if_neg fun h => hname (.inl h), if_neg fun h => hname (.inr h)]
    have hentry : (tree'.at? (name :: place)).isSome ↔ (tree.at? (name :: place)).isSome := by
      cases names with
      | nil => simpa [hadvance] using hfinal
      | cons next names =>
        have hnext : tree.at? (name :: place) = some .directory := hadvance ▸ hwalks.1.1
        simp [hnext, (hdirectory _).mpr hnext]
    rw [hentry]

/-! ### What a path leads to -/

lemma start_eq_ok_iff : w.start path = .ok place ↔ Path.Usable path ∧ place = w.origin path := by
  unfold start Path.Usable origin
  by_cases hnul : '\x00' ∈ path.toList
  · simp [hnul]
  · by_cases hempty : path.toList = []
    · simp [hempty]
    · rw [if_neg (by simpa using hnul), if_neg hempty, ← Nat.not_lt]
      by_cases hlong : 4095 < Utf8.size path.toList
      · simp only [hlong, if_true, reduceCtorEq, not_true_eq_false, and_false, false_and]
      · rw [if_neg hlong, ← apply_ite Except.ok, Except.ok.injEq, @eq_comm _ place]
        simp only [hnul, hempty, hlong, not_false_eq_true, ne_eq, and_self, true_and]

lemma locate_eq_ok_iff : w.locate path = .ok place ↔ w.Leads path ∧ place = w.place path := by
  unfold locate Leads
  cases hstart : w.start path with
  | error cause =>
    have hno : ¬ Path.Usable path := fun h => by
      rw [start_eq_ok_iff.mpr ⟨h, rfl⟩] at hstart
      cases hstart
    simp [bind, Except.bind, hno]
  | ok origin =>
    obtain ⟨husable, rfl⟩ := start_eq_ok_iff.mp hstart
    cases hwalk : (Path.components path).foldlM (step w.tree) (w.origin path) with
    | error cause =>
      have hno : ¬ Walks w.tree (w.origin path) (Path.components path) := fun h => by
        rw [foldlM_step_eq_ok_iff.mpr ⟨h, rfl⟩] at hwalk
        cases hwalk
      simp [bind, Except.bind, hwalk, hno]
    | ok final =>
      obtain ⟨hwalks, hfinal⟩ := foldlM_step_eq_ok_iff.mp hwalk
      rw [← place_eq_foldl] at hfinal
      subst hfinal
      simp only [bind, Except.bind, hwalk, husable, hwalks, true_and]
      split_ifs with hslash
      · simp [hslash]
      · have hend : Path.endsInSlash path = true →
            w.tree.at? (w.place path) = some .directory :=
          fun h => not_not.mp fun hne => hslash ⟨h, hne⟩
        simp only [pure, Except.pure, Except.ok.injEq, @eq_comm _ place]
        exact ⟨fun h => ⟨hend, h⟩, And.right⟩

/-- A path leads to what stands at its place, if it can be walked. -/
lemma node?_eq_some_iff :
    w.node? path = some node ↔ w.Leads path ∧ w.tree.at? (w.place path) = some node := by
  unfold node?
  cases hlocate : w.locate path with
  | error cause =>
    have hno : ¬ w.Leads path := fun h => by
      rw [locate_eq_ok_iff.mpr ⟨h, rfl⟩] at hlocate
      cases hlocate
    simp [hno]
  | ok place =>
    obtain ⟨hleads, rfl⟩ := locate_eq_ok_iff.mp hlocate
    simp [hleads]

lemma isDirectory_iff : w.isDirectory path = true ↔ w.node? path = some .directory := by
  simp [isDirectory]

lemma isFile_iff : w.isFile path = true ↔ ∃ content, w.node? path = some (.file content) := by
  unfold isFile
  split <;> simp_all

/-- A file can be read exactly if the path leads to it. -/
lemma readBytes_eq_ok_iff :
    w.readBytes path = .ok content ↔ w.node? path = some (.file content) := by
  rw [node?_eq_some_iff]
  unfold readBytes
  cases hlocate : w.locate path with
  | error cause =>
    have hno : ¬ w.Leads path := fun h => by
      rw [locate_eq_ok_iff.mpr ⟨h, rfl⟩] at hlocate
      cases hlocate
    simp [bind, Except.bind, hno]
  | ok place =>
    obtain ⟨hleads, rfl⟩ := locate_eq_ok_iff.mp hlocate
    simp only [bind, Except.bind, hleads, true_and]
    split <;> simp_all [pure, Except.pure, throw, throwThe, MonadExceptOf.throw]

/-- A text can be read only where something stands. -/
lemma isPresent_of_readText {text : String} (h : w.readText path = .ok text) :
    w.isPresent path = true := by
  unfold readText at h
  cases hread : w.readBytes path with
  | error cause => simp [hread, bind, Except.bind] at h
  | ok content => rw [isPresent, readBytes_eq_ok_iff.mp hread, Option.isSome_some]

/-- A directory cannot be read. -/
lemma readText_of_directory (h : w.node? path = some .directory) :
    w.readText path = .error .isDirectory := by
  obtain ⟨hleads, hat⟩ := node?_eq_some_iff.mp h
  simp [readText, readBytes, locate_eq_ok_iff.mpr ⟨hleads, rfl⟩, hat, bind, Except.bind, throw,
    throwThe, MonadExceptOf.throw]

/-- A file is read as the text that its bytes write. -/
lemma readText_of_file (h : w.node? path = some (.file content)) :
    w.readText path =
      match Utf8.text? content with
      | some text => .ok text
      | none => .error .notText := by
  simp only [readText, readBytes_eq_ok_iff.mpr h, bind, Except.bind]
  cases Utf8.text? content <;> rfl

/-- The names of a directory can be listed. -/
lemma entries_eq_ok (h : w.isDirectory path = true) :
    w.entries path = .ok (w.tree.names (w.place path)) := by
  obtain ⟨hleads, hat⟩ := node?_eq_some_iff.mp (isDirectory_iff.mp h)
  simp [entries, locate_eq_ok_iff.mpr ⟨hleads, rfl⟩, bind, Except.bind, hat, pure, Except.pure]

/-- Only a directory has entries. -/
lemma isDirectory_of_entries {names : List String} (h : w.entries path = .ok names) :
    w.isDirectory path = true := by
  unfold entries at h
  cases hlocate : w.locate path with
  | error cause => simp [hlocate, bind, Except.bind] at h
  | ok place =>
    cases hat : w.tree.at? place with
    | none => simp [hlocate, hat, bind, Except.bind, throw, throwThe, MonadExceptOf.throw] at h
    | some node =>
      cases node with
      | file content =>
        simp [hlocate, hat, bind, Except.bind, throw, throwThe, MonadExceptOf.throw] at h
      | directory => simp [isDirectory, node?, hlocate, hat]

end Workspace

end SnapshotSuite
