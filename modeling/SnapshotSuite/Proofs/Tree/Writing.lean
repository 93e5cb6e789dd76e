import Mathlib.Data.Set.Insert
import SnapshotSuite.Proofs.Tree.Frame

/-!
# Where a file can be written

A file can be written at a path that ends in a proper name below a directory, unless a directory has
that name. Only directories count here: whether a file stands at the path already, and what it holds,
makes no difference. Two workspaces that differ in that file alone become the same when it is written.
-/

namespace SnapshotSuite

namespace Workspace

variable {w w' written written' : Workspace} {places : Set Location} {place : Location}
  {path : Path} {content : Bytes}

/-- A file can be written at a path: the walk along all components but the last ends at a directory,
and the last one is a proper name that no directory has there. -/
def Writable (w : Workspace) (path : Path) : Prop :=
  Path.Usable path ∧ Path.endsInSlash path = false ∧
    ∃ front name, Path.components path = front ++ [name] ∧ name ≠ "." ∧ name ≠ ".." ∧
      Utf8.size name.toList ≤ 255 ∧ Walks w.tree (w.origin path) front ∧
      w.tree.at? (front.foldl advance (w.origin path)) = some .directory ∧
      w.tree.at? (w.place path) ≠ some .directory

/-! ### What decides whether a file can be written -/

lemma target_eq_ok_iff : w.target path = .ok place ↔ w.Writable path ∧ place = w.place path := by
  constructor
  · intro h
    obtain rfl := eq_place_of_target h
    obtain ⟨front, name, hcomponents, -, husable, hslash, hwalks, hparent, habove, hfree, hdot, hup,
      hshort⟩ := target_eq_ok h
    exact ⟨⟨husable, hslash, front, name, hcomponents, hdot, hup, hshort, hwalks, hparent ▸ habove,
      hfree⟩, rfl⟩
  · rintro ⟨⟨husable, hslash, front, name, hcomponents, hdot, hup, hshort, hwalks, habove, hfree⟩,
      rfl⟩
    have hplace : w.place path = name :: front.foldl advance (w.origin path) := by
      rw [place_eq_foldl, hcomponents, List.foldl_concat, advance, if_neg hdot, if_neg hup]
    have hwalk : front.foldlM (step w.tree) (w.origin path) =
        .ok (front.foldl advance (w.origin path)) := foldlM_step_eq_ok_iff.mpr ⟨hwalks, rfl⟩
    rw [hplace] at hfree ⊢
    simp [target, start_eq_ok_iff.mpr ⟨husable, rfl⟩, hcomponents, hwalk, habove, hslash, hdot, hup,
      Nat.not_lt.mpr hshort, hfree, bind, Except.bind, pure, Except.pure]

/-- Writing succeeds exactly where a file can be written. -/
lemma writeBytes_eq_ok_iff :
    w.writeBytes path content = .ok written ↔
      w.Writable path ∧ written = { w with tree := w.tree.put (w.place path) (.file content) } := by
  constructor
  · intro h
    obtain ⟨htarget, hwritten⟩ := writeBytes_eq_ok h
    exact ⟨(target_eq_ok_iff.mp htarget).1, hwritten⟩
  · rintro ⟨hwritable, rfl⟩
    rw [writeBytes, target_eq_ok_iff.mpr ⟨hwritable, rfl⟩]
    rfl

lemma Writable.exists_writeBytes (h : w.Writable path) (content : Bytes) :
    ∃ written, w.writeBytes path content = .ok written :=
  ⟨_, writeBytes_eq_ok_iff.mpr ⟨h, rfl⟩⟩

/-- Only the directories decide whether a file can be written. -/
lemma Writable.agree (h : w.Writable path) (hagrees : AgreesOff places w w') :
    w'.Writable path := by
  obtain ⟨husable, hslash, front, name, hcomponents, hdot, hup, hshort, hwalks, habove, hfree⟩ := h
  have horigin : w'.origin path = w.origin path := by rw [origin, origin, hagrees.cwd]
  have habove' := (hagrees.directory _).mpr habove
  refine ⟨husable, hslash, front, name, hcomponents, hdot, hup, hshort, ?_, ?_, ?_⟩
  · rw [horigin, walks_congr hagrees.directory (by simp [habove, habove'])]
    exact hwalks
  · rwa [horigin]
  · rwa [hagrees.place_eq, ne_eq, hagrees.directory]

lemma AgreesOff.writable_iff (h : AgreesOff places w w') : w'.Writable path ↔ w.Writable path :=
  ⟨fun hwritable => hwritable.agree h.symm, fun hwritable => hwritable.agree h⟩

/-- A file that is there can be written anew. A path that goes up at its end is left out: it leads to
a directory. -/
lemma writable_of_isFile (h : w.isFile path = true)
    (hlast : (Path.components path).getLast? ≠ some "..") : w.Writable path := by
  obtain ⟨content, hnode⟩ := isFile_iff.mp h
  obtain ⟨⟨husable, hwalks, hslash⟩, hat⟩ := node?_eq_some_iff.mp hnode
  have hfile : w.tree.at? (w.place path) ≠ some .directory := by simp [hat]
  have hcomponents : Path.components path ≠ [] := by
    intro hnil
    have hplace : w.place path = w.origin path := by rw [place_eq_foldl, hnil, List.foldl_nil]
    cases hpath : Path.isAbsolute path with
    | true => exact hfile (by rw [hplace, origin, if_pos hpath, Tree.at?_nil])
    | false => exact Path.components_ne_nil husable.2.1 hpath hnil
  obtain ⟨front, name, hsplit⟩ := List.eq_nil_or_concat _ |>.resolve_left hcomponents
  rw [List.concat_eq_append] at hsplit
  rw [hsplit, walks_append] at hwalks
  obtain ⟨hfront, ⟨habove, henters⟩, -⟩ := hwalks
  have hup : name ≠ ".." := fun heq => hlast (by rw [hsplit, heq, List.getLast?_concat])
  have hdot : name ≠ "." := by
    rintro rfl
    apply hfile
    rwa [place_eq_foldl, hsplit, List.foldl_concat, advance, if_pos rfl]
  refine ⟨husable, ?_, front, name, hsplit, hdot, hup, ?_, hfront, habove, hfile⟩
  · exact Bool.eq_false_iff.mpr fun hend => hfile (hslash hend)
  · exact ((henters.resolve_left hdot).resolve_left hup).1

/-! ### What the file held makes no difference -/

/-- In workspaces that have something at the same places, every step goes the same way. -/
lemma AgreesOff.step_eq (h : AgreesOff places w w')
    (hsome : ∀ place ∈ places, (w'.tree.at? place).isSome = (w.tree.at? place).isSome) :
    step w'.tree = step w.tree := by
  have hisSome : ∀ place, (w'.tree.at? place).isSome = (w.tree.at? place).isSome := by
    intro place
    by_cases hplace : place ∈ places
    · exact hsome place hplace
    · rw [h.at? place hplace]
  funext place name
  simp only [step, ne_eq, h.directory, ← Option.not_isSome, hisSome]

/-- The error of a write does not depend on the content of any file. -/
lemma AgreesOff.target_eq (h : AgreesOff places w w')
    (hsome : ∀ place ∈ places, (w'.tree.at? place).isSome = (w.tree.at? place).isSome) :
    w'.target path = w.target path := by
  simp only [target, h.start_eq, h.step_eq hsome, ne_eq, h.directory]

/-- Workspaces that differ in one file alone are the same once it has been written. -/
lemma AgreesOff.nowhere_of_writeBytes (h : AgreesOff {w.place path} w w')
    (hwritten : w.writeBytes path content = .ok written)
    (hwritten' : w'.writeBytes path content = .ok written') : AgreesOff ∅ written written' := by
  have hplace := h.place_eq path
  have hfirst := agreesOff_of_writeBytes hwritten
  have hsecond := agreesOff_of_writeBytes hwritten'
  rw [hplace] at hsecond
  refine (hfirst.symm.trans (h.trans hsecond)).nowhere fun place hat => ?_
  rw [Set.mem_singleton_iff.mp hat, at?_of_writeBytes hwritten, ← hplace,
    at?_of_writeBytes hwritten']

end Workspace

end SnapshotSuite
