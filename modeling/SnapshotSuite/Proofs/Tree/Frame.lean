import Mathlib.Data.List.Basic
import SnapshotSuite.Proofs.Tree.Naming

/-!
# Writing a file, and what it leaves alone

`Workspace.AgreesOff places w w'` says that two workspaces differ at most in what files stand at
some places. Paths that lead elsewhere then lead to the same in both, and every path leads to a
directory in both or in neither. Writing a file gives a workspace that agrees with the one before
off the place of the path, and the path then leads to what was written.
-/

namespace SnapshotSuite

namespace Workspace

variable {w w' w'' : Workspace} {places more : Set Location} {place : Location} {base path : Path}
  {name : String} {content : Bytes}

/-- Two workspaces with the same directories that have the same at every location outside some
places. -/
structure AgreesOff (places : Set Location) (w w' : Workspace) : Prop where
  /-- Relative paths start in the same directory. -/
  cwd : w'.cwd = w.cwd
  /-- The same files may be run. -/
  runnable : w'.tree.runnable = w.tree.runnable
  /-- The directories are the same. -/
  directory : ∀ place, w'.tree.at? place = some .directory ↔ w.tree.at? place = some .directory
  /-- Outside the places there is no difference at all. -/
  at? : ∀ place ∉ places, w'.tree.at? place = w.tree.at? place

namespace AgreesOff

lemma refl (places : Set Location) (w : Workspace) : AgreesOff places w w :=
  ⟨rfl, rfl, fun _ => Iff.rfl, fun _ _ => rfl⟩

lemma symm (h : AgreesOff places w w') : AgreesOff places w' w :=
  ⟨h.cwd.symm, h.runnable.symm, fun place => (h.directory place).symm,
    fun place hplace => (h.at? place hplace).symm⟩

lemma trans (h : AgreesOff places w w') (h' : AgreesOff places w' w'') :
    AgreesOff places w w'' where
  cwd := h'.cwd.trans h.cwd
  runnable := h'.runnable.trans h.runnable
  directory place := (h'.directory place).trans (h.directory place)
  at? place hplace := (h'.at? place hplace).trans (h.at? place hplace)

lemma mono (h : AgreesOff places w w') (hsub : places ⊆ more) : AgreesOff more w w' :=
  ⟨h.cwd, h.runnable, h.directory, fun place hplace => h.at? place fun hmem => hplace (hsub hmem)⟩

/-- Without a difference at the places there is none anywhere. -/
lemma nowhere (h : AgreesOff places w w')
    (hat : ∀ place ∈ places, w'.tree.at? place = w.tree.at? place) : AgreesOff ∅ w w' := by
  refine ⟨h.cwd, h.runnable, h.directory, fun place _ => ?_⟩
  by_cases hplace : place ∈ places
  · exact hat place hplace
  · exact h.at? place hplace

/-- Where a path leads does not depend on the tree. -/
lemma place_eq (h : AgreesOff places w w') (path : Path) : w'.place path = w.place path := by
  rw [place_eq_foldl, place_eq_foldl, origin, origin, h.cwd]

/-- A path whose end is occupied in both workspaces, or in neither, can be walked in both or in
neither. -/
lemma leads_iff (h : AgreesOff places w w')
    (hend : (w'.tree.at? (w.place path)).isSome ↔ (w.tree.at? (w.place path)).isSome) :
    w'.Leads path ↔ w.Leads path := by
  have horigin : w'.origin path = w.origin path := by rw [origin, origin, h.cwd]
  rw [Leads, Leads, horigin, h.place_eq, h.directory]
  rw [place_eq_foldl] at hend
  rw [walks_congr h.directory hend]

/-- A path leads to the same in both workspaces if the same stands at its place. -/
lemma node?_eq_of_at?_eq (h : AgreesOff places w w')
    (hat : w'.tree.at? (w.place path) = w.tree.at? (w.place path)) :
    w'.node? path = w.node? path := by
  ext node
  rw [node?_eq_some_iff, node?_eq_some_iff, h.leads_iff (by rw [hat]), h.place_eq, hat]

/-- A path that leads outside the places leads to the same in both workspaces. -/
lemma node?_eq (h : AgreesOff places w w') (hpath : w.place path ∉ places) :
    w'.node? path = w.node? path :=
  h.node?_eq_of_at?_eq (h.at? _ hpath)

/-- Every path leads to a directory in both workspaces or in neither. -/
lemma isDirectory_eq (h : AgreesOff places w w') (path : Path) :
    w'.isDirectory path = w.isDirectory path := by
  rw [Bool.eq_iff_iff, isDirectory_iff, isDirectory_iff, node?_eq_some_iff, node?_eq_some_iff,
    h.place_eq, h.directory, and_congr_left_iff]
  intro hdirectory
  apply h.leads_iff
  rw [hdirectory, (h.directory _).mpr hdirectory]

lemma start_eq (h : AgreesOff places w w') (path : Path) : w'.start path = w.start path := by
  rw [start, start, h.cwd]

end AgreesOff

/-! ### Entries of a directory -/

lemma toList_ne_nil_of_isDirectory (h : w.isDirectory path = true) : path.toList ≠ [] :=
  (node?_eq_some_iff.mp (isDirectory_iff.mp h)).1.1.2.1

lemma origin_join_of_relative (hbase : base.toList ≠ []) (hpath : Path.isAbsolute path = false) :
    w.origin (Path.join base path) = w.origin base := by
  rw [origin, origin, Path.isAbsolute_join_of_relative hbase hpath]

/-- A relative path joined to another leads on from where that one leads. -/
lemma place_join_of_relative (hbase : base.toList ≠ []) (hpath : Path.isAbsolute path = false) :
    w.place (Path.join base path) = (Path.components path).foldl advance (w.place base) := by
  rw [place_eq_foldl, place_eq_foldl, Path.components_join_of_relative hbase hpath,
    List.foldl_append, origin_join_of_relative hbase hpath]

/-- A name joined to a path leads one location further in. -/
lemma place_join (hbase : base.toList ≠ []) (hname : Path.IsName name) :
    w.place (Path.join base name) = name :: w.place base := by
  rw [place_join_of_relative hbase hname.isAbsolute, hname.components, List.foldl_cons,
    List.foldl_nil, advance, if_neg hname.2.2.1, if_neg hname.2.2.2]

/-- A relative path seen from a directory leads to a directory exactly if its components walk on
from there to one, and the joined path can be used. -/
lemma isDirectory_join_iff (hbase : w.isDirectory base = true)
    (hpath : Path.isAbsolute path = false) :
    w.isDirectory (Path.join base path) = true ↔
      Path.Usable (Path.join base path) ∧ Walks w.tree (w.place base) (Path.components path) ∧
        w.tree.at? ((Path.components path).foldl advance (w.place base)) = some .directory := by
  have hne := toList_ne_nil_of_isDirectory hbase
  obtain ⟨⟨-, hwalks, -⟩, -⟩ := node?_eq_some_iff.mp (isDirectory_iff.mp hbase)
  rw [isDirectory_iff, node?_eq_some_iff, Leads, origin_join_of_relative hne hpath,
    Path.components_join_of_relative hne hpath, walks_append, ← place_eq_foldl,
    place_join_of_relative hne hpath]
  constructor
  · rintro ⟨⟨husable, ⟨-, hmore⟩, -⟩, hat⟩
    exact ⟨husable, hmore, hat⟩
  · rintro ⟨husable, hmore, hat⟩
    exact ⟨⟨husable, ⟨hwalks, hmore⟩, fun _ => hat⟩, hat⟩

/-- The name of an entry leads to what stands there, if the system takes the name and the joined path;
neither may be too long. -/
lemma node?_join_iff (hbase : w.isDirectory base = true) (hname : Path.IsName name) {node : Node} :
    w.node? (Path.join base name) = some node ↔
      w.tree.at? (name :: w.place base) = some node ∧
        Path.Usable (Path.join base name) ∧ Utf8.size name.toList ≤ 255 := by
  have hne := toList_ne_nil_of_isDirectory hbase
  obtain ⟨⟨-, hwalks, -⟩, hat⟩ := node?_eq_some_iff.mp (isDirectory_iff.mp hbase)
  have hwalk : Walks w.tree (w.place base) [name] ↔
      Utf8.size name.toList ≤ 255 ∧ (w.tree.at? (name :: w.place base)).isSome := by
    simp [Walks, Enters, hat, hname.2.2.1, hname.2.2.2]
  rw [node?_eq_some_iff, Leads, origin_join_of_relative hne hname.isAbsolute,
    Path.components_join hne hname, walks_append, ← place_eq_foldl, hwalk, place_join hne hname,
    Path.endsInSlash_join hne hname]
  constructor
  · rintro ⟨⟨husable, ⟨-, hsize, -⟩, -⟩, hnode⟩
    exact ⟨hnode, husable, hsize⟩
  · rintro ⟨hnode, husable, hsize⟩
    have hpresent : (w.tree.at? (name :: w.place base)).isSome := by rw [hnode, Option.isSome_some]
    exact ⟨⟨husable, ⟨hwalks, hsize, hpresent⟩, fun h => absurd h Bool.false_ne_true⟩, hnode⟩

/-- Writing to an entry of a directory fails only for a path that the system does not take or for a
name of a directory. -/
lemma target_join (hbase : w.isDirectory base = true) (hname : Path.IsName name) :
    w.target (Path.join base name) =
      match w.start (Path.join base name) with
      | .error cause => .error cause
      | .ok _ =>
        if 255 < Utf8.size name.toList then .error .nameTooLong
        else if w.tree.at? (name :: w.place base) = some .directory then .error .isDirectory
        else .ok (name :: w.place base) := by
  obtain ⟨hleads, hat⟩ := node?_eq_some_iff.mp (isDirectory_iff.mp hbase)
  have hne := toList_ne_nil_of_isDirectory hbase
  cases hstart : w.start (Path.join base name) with
  | error cause => simp [target, hstart, bind, Except.bind]
  | ok place =>
    obtain ⟨-, rfl⟩ := start_eq_ok_iff.mp hstart
    have horigin : w.origin (Path.join base name) = w.origin base :=
      origin_join_of_relative hne hname.isAbsolute
    have hwalk : (Path.components base).foldlM (step w.tree) (w.origin base) =
        .ok (w.place base) := foldlM_step_eq_ok_iff.mpr ⟨hleads.2.1, rfl⟩
    simp [target, hstart, bind, Except.bind, pure, Except.pure, throw, throwThe,
      MonadExceptOf.throw, Path.components_join hne hname, horigin, hwalk, hat,
      Path.endsInSlash_join hne hname, hname.2.2.1, hname.2.2.2]

/-- The target of an entry is the same in two workspaces with the same directories. -/
lemma AgreesOff.target_join_eq (h : AgreesOff places w w') (hbase : w.isDirectory base = true)
    (hname : Path.IsName name) :
    w'.target (Path.join base name) = w.target (Path.join base name) := by
  rw [target_join hbase hname, target_join ((h.isDirectory_eq base).trans hbase) hname,
    h.start_eq, h.place_eq]
  simp only [h.directory]

/-- An entry of a directory that is a file can be written to. -/
lemma target_join_of_isFile (hbase : w.isDirectory base = true) (hname : Path.IsName name)
    (hfile : w.isFile (Path.join base name) = true) :
    w.target (Path.join base name) = .ok (name :: w.place base) := by
  have hne := toList_ne_nil_of_isDirectory hbase
  obtain ⟨content, hnode⟩ := isFile_iff.mp hfile
  obtain ⟨⟨husable, hwalks, -⟩, hat⟩ := node?_eq_some_iff.mp hnode
  rw [place_join hne hname] at hat
  rw [Path.components_join hne hname, walks_append] at hwalks
  have hshort : Utf8.size name.toList ≤ 255 := by
    rcases hwalks.2.1.2 with h | h | h
    · exact absurd h hname.2.2.1
    · exact absurd h hname.2.2.2
    · exact h.1
  rw [target_join hbase hname, start_eq_ok_iff.mpr ⟨husable, rfl⟩]
  simp only [if_neg (Nat.not_lt.mpr hshort), hat, Option.some.injEq, reduceCtorEq, if_false]

/-! ### Writing -/

/-- A path that can be written to ends in a name, a directory stands above that name, and no
directory is in the way. -/
lemma target_eq_ok (h : w.target path = .ok place) :
    ∃ front name, Path.components path = front ++ [name] ∧ place = name :: place.tail ∧
      Path.Usable path ∧ Path.endsInSlash path = false ∧ Walks w.tree (w.origin path) front ∧
      front.foldl advance (w.origin path) = place.tail ∧
      w.tree.at? place.tail = some .directory ∧ w.tree.at? place ≠ some .directory ∧
      name ≠ "." ∧ name ≠ ".." ∧ Utf8.size name.toList ≤ 255 := by
  unfold target at h
  cases hstart : w.start path with
  | error cause => simp [hstart, bind, Except.bind] at h
  | ok origin =>
    obtain ⟨husable, rfl⟩ := start_eq_ok_iff.mp hstart
    cases hwalk : (Path.components path).dropLast.foldlM (step w.tree) (w.origin path) with
    | error cause => simp [hstart, hwalk, bind, Except.bind] at h
    | ok parent =>
      obtain ⟨hwalks, hparent⟩ := foldlM_step_eq_ok_iff.mp hwalk
      cases hlast : (Path.components path).getLast? with
      | none => simp [hstart, hwalk, hlast, bind, Except.bind, throw, throwThe,
          MonadExceptOf.throw] at h
      | some name =>
        simp only [hstart, hwalk, hlast, bind, Except.bind, throw, throwThe, MonadExceptOf.throw,
          pure, Except.pure] at h
        split_ifs at h with hdirectory hbad hlong hoccupied
        obtain rfl : name :: parent = place := Except.ok.inj h
        simp only [not_or] at hbad
        refine ⟨_, name, (List.dropLast_append_getLast? _ hlast).symm, rfl, husable, ?_, hwalks,
          hparent.symm, not_not.mp hdirectory, hoccupied, hbad.2.1, hbad.2.2, Nat.not_lt.mp hlong⟩
        simpa using hbad.1

/-- A file is written at the place of its path. -/
lemma eq_place_of_target (h : w.target path = .ok place) : place = w.place path := by
  obtain ⟨front, name, hcomponents, hplace, -, -, -, hparent, -, -, hdot, hup, -⟩ := target_eq_ok h
  rw [place_eq_foldl, hcomponents, List.foldl_concat, hparent, advance, if_neg hdot, if_neg hup,
    ← hplace]

/-- Writing puts the file at the place of the path. -/
lemma writeBytes_eq_ok (h : w.writeBytes path content = .ok w') :
    w.target path = .ok (w.place path) ∧
      w' = { w with tree := w.tree.put (w.place path) (.file content) } := by
  unfold writeBytes at h
  cases htarget : w.target path with
  | error cause => simp [htarget, bind, Except.bind] at h
  | ok place =>
    obtain rfl := eq_place_of_target htarget
    simpa [htarget, bind, Except.bind, pure, Except.pure, eq_comm] using h

/-- Writing a file changes nothing but what stands at its place. -/
lemma agreesOff_of_writeBytes (h : w.writeBytes path content = .ok w') :
    AgreesOff {w.place path} w w' := by
  obtain ⟨htarget, rfl⟩ := writeBytes_eq_ok h
  obtain ⟨_, _, _, hplace, _, _, _, _, _, hfile, _⟩ := target_eq_ok htarget
  have hne : w.place path ≠ [] := hplace ▸ List.cons_ne_nil _ _
  refine ⟨rfl, rfl, fun place => ?_, fun place hne => Tree.at?_put_of_ne hne⟩
  by_cases hself : place = w.place path
  · simp [hself, Tree.at?_put_self hne, hfile]
  · rw [Tree.at?_put_of_ne hself]

/-- After writing, the file stands at the place of the path. -/
lemma at?_of_writeBytes (h : w.writeBytes path content = .ok w') :
    w'.tree.at? (w.place path) = some (.file content) := by
  obtain ⟨htarget, rfl⟩ := writeBytes_eq_ok h
  obtain ⟨_, _, _, hplace, _⟩ := target_eq_ok htarget
  exact Tree.at?_put_self (hplace ▸ List.cons_ne_nil _ _)

/-- After writing, the path leads to what was written. -/
lemma node?_of_writeBytes (h : w.writeBytes path content = .ok w') :
    w'.node? path = some (.file content) := by
  have hagrees := agreesOff_of_writeBytes h
  have hat := at?_of_writeBytes h
  obtain ⟨front, name, hcomponents, hplace, husable, hslash, hwalks, hparent, habove, -, -, -,
    hshort⟩ := target_eq_ok (writeBytes_eq_ok h).1
  have horigin : w'.origin path = w.origin path := by rw [origin, origin, hagrees.cwd]
  have habove' : w'.tree.at? (w.place path).tail = some .directory :=
    (hagrees.directory _).mpr habove
  have hfront : Walks w'.tree (w.origin path) front := by
    refine (walks_congr hagrees.directory ?_).mpr hwalks
    simp [hparent, habove, habove']
  refine node?_eq_some_iff.mpr ⟨⟨husable, ?_, by simp [hslash]⟩, ?_⟩
  · rw [horigin, hcomponents, walks_append, hparent]
    refine ⟨hfront, ⟨habove', .inr (.inr ⟨hshort, ?_⟩)⟩, trivial⟩
    rw [← hplace, hat]
    rfl
  · rw [hagrees.place_eq, hat]

/-- Writing a file keeps the names of a tree proper. -/
lemma wellNamed_of_writeBytes (hnamed : w.tree.WellNamed)
    (h : w.writeBytes path content = .ok w') : w'.tree.WellNamed := by
  obtain ⟨htarget, rfl⟩ := writeBytes_eq_ok h
  obtain ⟨front, name, hcomponents, hplace, -, -, -, -, habove, -, hdot, hup, -⟩ :=
    target_eq_ok htarget
  have hmem : name ∈ Path.components path := by simp [hcomponents]
  have hsome : (w.tree.at? (w.place path).tail).isSome := by simp [habove]
  refine hnamed.put fun other hother => ?_
  rw [hplace, List.mem_cons] at hother
  rcases hother with rfl | hother
  · exact Path.isName_of_mem_components hmem hdot hup
  · exact hnamed.isName_of_mem hsome hother

end Workspace

end SnapshotSuite
