import SnapshotSuite.Proofs.Tree.Walk

/-!
# Names and joined paths

A name that an entry of a directory can have is not empty, has no slash and is neither `.` nor `..`.
Joined to the path of a directory, such a name leads to the entry of that name: one location further
in, whatever slashes and dots the path of the directory has. The last dot of a name, unless it comes
first, parts its stem from its extension.
-/

namespace SnapshotSuite

namespace Path

variable {base path : Path} {name : String}

/-- A name that an entry of a directory can have. -/
def IsName (name : String) : Prop :=
  name.toList ≠ [] ∧ '/' ∉ name.toList ∧ name ≠ "." ∧ name ≠ ".."

instance : Decidable (IsName name) :=
  inferInstanceAs (Decidable (_ ∧ _ ∧ _ ∧ _))

/-! ### Components -/

@[simp] lemma names_nil : names [] = [] := rfl

@[simp] lemma names_slash_cons (cs : List Char) : names ('/' :: cs) = names cs := rfl

lemma names_cons {c : Char} (h : c ≠ '/') (cs : List Char) :
    names (c :: cs) =
      match cs, names cs with
      | d :: _, n :: ns => if d = '/' then [c] :: n :: ns else (c :: n) :: ns
      | _, ns => [c] :: ns :=
  if_neg h

lemma names_singleton {c : Char} (h : c ≠ '/') : names [c] = [[c]] := names_cons h []

lemma names_cons_slash {c : Char} (h : c ≠ '/') (cs : List Char) :
    names (c :: '/' :: cs) = [c] :: names cs := by
  rw [names_cons h, names_slash_cons]
  cases names cs <;> rfl

/-- A character joins the first name behind it. -/
lemma names_cons_cons {c d : Char} {ds first : List Char} {others : List (List Char)} (hc : c ≠ '/')
    (hd : d ≠ '/') (h : names (d :: ds) = first :: others) :
    names (c :: d :: ds) = (c :: first) :: others := by
  rw [names_cons hc, h]
  exact if_neg hd

lemma names_ne_nil {c : Char} (h : c ≠ '/') (cs : List Char) : names (c :: cs) ≠ [] := by
  induction cs generalizing c with
  | nil => simp [names_singleton h]
  | cons d ds ih =>
    by_cases hd : d = '/'
    · simp [hd, names_cons_slash h]
    · obtain ⟨first, others, hfirst⟩ := List.exists_cons_of_ne_nil (ih hd)
      simp [names_cons_cons h hd hfirst]

/-- A slash parts the names before it from the names after it. -/
lemma names_append_slash (cs ds : List Char) : names (cs ++ '/' :: ds) = names cs ++ names ds := by
  induction cs with
  | nil => rfl
  | cons c cs ih =>
    by_cases hc : c = '/'
    · simpa [hc] using ih
    cases cs with
    | nil =>
      rw [names_singleton hc]
      exact names_cons_slash hc ds
    | cons e es =>
      by_cases he : e = '/'
      · subst he
        simpa [names_cons_slash hc] using ih
      · obtain ⟨first, others, hes⟩ := List.exists_cons_of_ne_nil (names_ne_nil he es)
        rw [hes] at ih
        rw [names_cons_cons hc he hes]
        exact names_cons_cons hc he ih

/-- The names between slashes are not empty and have no slash. -/
lemma slash_not_mem_of_mem_names {cs part : List Char} (h : part ∈ names cs) :
    part ≠ [] ∧ '/' ∉ part := by
  induction cs generalizing part with
  | nil => simp at h
  | cons c cs ih =>
    by_cases hc : c = '/'
    · exact ih (by simpa [hc] using h)
    have hsingle : [c] ≠ [] ∧ '/' ∉ [c] := by simp [Ne.symm hc]
    cases cs with
    | nil =>
      obtain rfl : part = [c] := by simpa [names_singleton hc] using h
      exact hsingle
    | cons d ds =>
      by_cases hd : d = '/'
      · subst hd
        rw [names_cons_slash hc, List.mem_cons] at h
        rcases h with rfl | h
        · exact hsingle
        · exact ih (by simpa using h)
      · obtain ⟨first, others, hfirst⟩ := List.exists_cons_of_ne_nil (names_ne_nil hd ds)
        rw [names_cons_cons hc hd hfirst, List.mem_cons] at h
        rw [hfirst] at ih
        rcases h with rfl | h
        · simpa [Ne.symm hc] using (ih List.mem_cons_self).2
        · exact ih (List.mem_cons_of_mem _ h)

/-- Characters without a slash are one name. -/
lemma names_eq_singleton {cs : List Char} (hne : cs ≠ []) (hslash : '/' ∉ cs) :
    names cs = [cs] := by
  induction cs with
  | nil => exact absurd rfl hne
  | cons c cs ih =>
    rw [List.mem_cons, not_or] at hslash
    cases cs with
    | nil => exact names_singleton (Ne.symm hslash.1)
    | cons d ds =>
      have hd : d ≠ '/' := fun h => hslash.2 (h ▸ List.mem_cons_self)
      exact names_cons_cons (Ne.symm hslash.1) hd (ih (List.cons_ne_nil _ _) hslash.2)

/-- A relative path stands at the end of a joined path, behind a slash; what stands before has the
components of the directory and begins as its path does. -/
lemma toList_join_of_relative (hbase : base.toList ≠ []) (hpath : isAbsolute path = false) :
    ∃ init, (join base path).toList = init ++ '/' :: path.toList ∧
      names init = names base.toList ∧ (init ++ ['/']).head? = base.toList.head? := by
  rw [join, if_neg (by simp [hpath])]
  obtain ⟨init, last, hsplit⟩ := List.eq_nil_or_concat base.toList |>.resolve_left hbase
  by_cases hlast : last = '/'
  · refine ⟨init, ?_, ?_, ?_⟩
    · simp [hsplit, hlast]
    · simp [hsplit, hlast, names_append_slash, names]
    · simp [hsplit, hlast]
  · refine ⟨base.toList, ?_, rfl, ?_⟩
    · simp [hsplit, hlast]
    · simp [hsplit]

/-- Joining adds no character but a slash. -/
lemma mem_toList_join {c : Char} (h : c ∈ (join base path).toList) :
    c ∈ base.toList ∨ c = '/' ∨ c ∈ path.toList := by
  rw [join] at h
  split_ifs at h
  · exact .inr (.inr h)
  · rw [String.toList_append, List.mem_append] at h
    exact h.imp_right .inr
  · simpa [or_assoc] using h

/-- A joined path can be used unless it has a NUL or is too long. -/
lemma usable_join (hbase : Usable base) (hpath : isAbsolute path = false)
    (hnul : '\x00' ∉ path.toList) (hshort : Utf8.size (join base path).toList ≤ 4095) :
    Usable (join base path) := by
  obtain ⟨init, hjoin, -⟩ := toList_join_of_relative hbase.2.1 hpath
  refine ⟨fun hmem => ?_, by simp [hjoin], hshort⟩
  rcases mem_toList_join hmem with hmem | heq | hmem
  · exact hbase.1 hmem
  · exact absurd heq (by decide)
  · exact hnul hmem

/-- A path without components is empty or starts at the root. -/
lemma components_ne_nil (hne : path.toList ≠ []) (hpath : isAbsolute path = false) :
    components path ≠ [] := by
  obtain ⟨c, cs, hcs⟩ := List.exists_cons_of_ne_nil hne
  have hc : c ≠ '/' := by
    rintro rfl
    simp [isAbsolute, hcs] at hpath
  rw [components, ne_eq, List.map_eq_nil_iff, hcs]
  exact names_ne_nil hc cs

lemma components_join_of_relative (hbase : base.toList ≠ []) (hpath : isAbsolute path = false) :
    components (join base path) = components base ++ components path := by
  obtain ⟨init, hjoin, hinit, -⟩ := toList_join_of_relative hbase hpath
  rw [components, components, components, hjoin, names_append_slash, hinit, List.map_append]

lemma isAbsolute_join_of_relative (hbase : base.toList ≠ []) (hpath : isAbsolute path = false) :
    isAbsolute (join base path) = isAbsolute base := by
  obtain ⟨init, hjoin, -, hhead⟩ := toList_join_of_relative hbase hpath
  rw [isAbsolute, isAbsolute, hjoin, ← hhead]
  cases init <;> rfl

/-- The name of an entry is a relative path. -/
lemma IsName.isAbsolute (hname : IsName name) : isAbsolute name = false := by
  obtain ⟨hne, hslash, -, -⟩ := hname
  cases hcs : name.toList with
  | nil => exact absurd hcs hne
  | cons c cs =>
    have hc : c ≠ '/' := fun h => hslash (by simp [hcs, h])
    simp [Path.isAbsolute, hcs, hc]

/-- The name of an entry is its only component. -/
lemma IsName.components (hname : IsName name) : components name = [name] := by
  rw [Path.components, names_eq_singleton hname.1 hname.2.1, List.map_singleton,
    String.ofList_toList]

lemma components_join (hbase : base.toList ≠ []) (hname : IsName name) :
    components (join base name) = components base ++ [name] := by
  rw [components_join_of_relative hbase hname.isAbsolute, hname.components]

/-- A component is a name, unless it stays in the directory or goes up. -/
lemma isName_of_mem_components (h : name ∈ components path) (hdot : name ≠ ".")
    (hup : name ≠ "..") : IsName name := by
  obtain ⟨part, hpart, rfl⟩ := List.mem_map.mp h
  obtain ⟨hne, hslash⟩ := slash_not_mem_of_mem_names hpart
  exact ⟨by simpa using hne, by simpa using hslash, hdot, hup⟩

lemma endsInSlash_join (hbase : base.toList ≠ []) (hname : IsName name) :
    endsInSlash (join base name) = false := by
  obtain ⟨init, hjoin, -, -⟩ := toList_join_of_relative hbase hname.isAbsolute
  obtain ⟨front, last, hsplit⟩ := List.eq_nil_or_concat name.toList |>.resolve_left hname.1
  have hlast : last ≠ '/' := fun h => hname.2.1 (by simp [hsplit, h])
  simp [endsInSlash, hjoin, hsplit, List.getLast?_cons, hlast]

/-! ### Stems and extensions -/

section Extensions

variable {cs before after : List Char} {front : String}

lemma cut?_cons (c : Char) (cs : List Char) :
    cut? (c :: cs) =
      match cut? cs with
      | some (before, after) => some (c :: before, after)
      | none => if c = '.' then some ([], cs) else none := rfl

/-- A name is cut if it has a dot. -/
lemma cut?_eq_none_iff : cut? cs = none ↔ '.' ∉ cs := by
  induction cs with
  | nil => exact iff_of_true rfl List.not_mem_nil
  | cons c cs ih =>
    rw [cut?_cons, List.mem_cons, not_or, ← ih]
    cases hcut : cut? cs with
    | some parts => simp
    | none =>
      by_cases hc : c = '.'
      · simp [hc]
      · simp [hc, Ne.symm hc]

/-- A name is cut at its last dot. -/
lemma eq_append_of_cut? (h : cut? cs = some (before, after)) :
    cs = before ++ '.' :: after ∧ '.' ∉ after := by
  induction cs generalizing before with
  | nil => cases h
  | cons c cs ih =>
    rw [cut?_cons] at h
    cases hcut : cut? cs with
    | some parts =>
      obtain ⟨first, rest⟩ := parts
      obtain ⟨rfl, rfl⟩ : c :: first = before ∧ rest = after := by simpa [hcut] using h
      obtain ⟨hcs, hafter⟩ := ih hcut
      exact ⟨congrArg (c :: ·) hcs, hafter⟩
    | none =>
      rw [hcut] at h
      obtain ⟨hc, rfl, rfl⟩ : c = '.' ∧ [] = before ∧ cs = after := by simpa using h
      exact ⟨congrArg (· :: cs) hc, cut?_eq_none_iff.mp hcut⟩

/-- What stands before and behind the last dot is what a name is cut into. -/
lemma cut?_append_dot (h : '.' ∉ after) : cut? (before ++ '.' :: after) = some (before, after) := by
  induction before with
  | nil => rw [List.nil_append, cut?_cons, cut?_eq_none_iff.mpr h, if_pos rfl]
  | cons c before ih => rw [List.cons_append, cut?_cons, ih]

/-- A stem without a dot is the whole name, or is followed by a dot and an extension without one. -/
lemma stem_eq_iff (hne : front.toList ≠ []) (hdot : '.' ∉ front.toList) :
    stem name = front ↔
      name = front ∨ ∃ extension : String, '.' ∉ extension.toList ∧
        name = front ++ "." ++ extension := by
  constructor
  · intro h
    unfold stem at h
    split at h
    · next c before after hcut =>
      obtain ⟨hname, hafter⟩ := eq_append_of_cut? hcut
      refine .inr ⟨String.ofList after, by rwa [String.toList_ofList], ?_⟩
      rw [← String.toList_inj, hname, ← h]
      simp
    · exact .inl h
  · obtain ⟨c, front', hfront⟩ := List.exists_cons_of_ne_nil hne
    rintro (rfl | ⟨extension, hextension, rfl⟩)
    · rw [stem, cut?_eq_none_iff.mpr hdot]
    · have hname : (front ++ "." ++ extension).toList =
          front.toList ++ '.' :: extension.toList := by simp
      rw [stem, hname, cut?_append_dot hextension, hfront]
      exact (congrArg String.ofList hfront.symm).trans String.ofList_toList

/-- What follows the last dot is the extension, unless the dot comes first. -/
lemma extension?_append_dot (hne : front.toList ≠ []) {extension : String}
    (hextension : '.' ∉ extension.toList) :
    extension? (front ++ "." ++ extension) = some extension := by
  obtain ⟨c, front', hfront⟩ := List.exists_cons_of_ne_nil hne
  have hname : (front ++ "." ++ extension).toList = front.toList ++ '.' :: extension.toList := by
    simp
  rw [extension?, hname, cut?_append_dot hextension, hfront]
  exact congrArg some String.ofList_toList

end Extensions

end Path

namespace Tree

variable {tree : Tree} {location directory : Location} {node : Node} {name : String}

/-- Every name in the tree is one that an entry of a directory can have. -/
def WellNamed (tree : Tree) : Prop :=
  ∀ entry ∈ tree.entries, ∀ name ∈ entry.1, Path.IsName name

instance : Decidable tree.WellNamed :=
  inferInstanceAs (Decidable (∀ entry ∈ tree.entries, ∀ name ∈ entry.1, Path.IsName name))

/-- Every name on the way to something that stands in the tree is proper. -/
lemma WellNamed.isName_of_mem (h : tree.WellNamed) (hat : (tree.at? location).isSome)
    (hname : name ∈ location) : Path.IsName name := by
  cases location with
  | nil => simp at hname
  | cons first parent =>
    rw [at?, List.lookup_isSome_iff] at hat
    obtain ⟨entry, hentry, hkey⟩ := hat
    exact h entry hentry name (by rwa [← eq_of_beq hkey])

lemma WellNamed.isName (h : tree.WellNamed) (hname : name ∈ tree.names directory) :
    Path.IsName name :=
  h.isName_of_mem (mem_names_iff.mp hname) List.mem_cons_self

lemma WellNamed.put (h : tree.WellNamed) (hlocation : ∀ name ∈ location, Path.IsName name) :
    (tree.put location node).WellNamed := by
  intro entry hentry
  rcases List.mem_cons.mp hentry with rfl | hentry
  · exact hlocation
  · exact h entry (List.mem_of_mem_filter hentry)

lemma WellNamed.makeDirectories (h : tree.WellNamed)
    (hlocation : ∀ name ∈ location, Path.IsName name) :
    (tree.makeDirectories location).WellNamed := by
  induction location with
  | nil => exact h
  | cons name parent ih =>
    have hparent := ih fun other hother => hlocation other (List.mem_cons_of_mem _ hother)
    rw [Tree.makeDirectories]
    split
    · exact hparent
    · exact hparent.put hlocation

end Tree

/-! ### Trees built by paths -/

namespace Workspace

variable {w : Workspace}

/-- Names that stay, go up or are proper lead from a location of proper names to another. -/
lemma isName_of_mem_foldl_advance {names : List String} {place : Location}
    (hnames : ∀ name ∈ names, name = "." ∨ name = ".." ∨ Path.IsName name)
    (hplace : ∀ name ∈ place, Path.IsName name) :
    ∀ name ∈ names.foldl advance place, Path.IsName name := by
  induction names generalizing place with
  | nil => exact hplace
  | cons first names ih =>
    obtain ⟨hfirst, hrest⟩ := List.forall_mem_cons.mp hnames
    refine ih hrest ?_
    rw [advance]
    split_ifs with hdot hup
    · exact hplace
    · exact fun name hname => hplace name (List.mem_of_mem_tail hname)
    · exact List.forall_mem_cons.mpr
        ⟨(hfirst.resolve_left hdot).resolve_left hup, hplace⟩

/-- A path leads to a location of proper names if the working directory is one. -/
lemma isName_of_mem_place (hcwd : ∀ name ∈ w.cwd, Path.IsName name) (path : Path) :
    ∀ name ∈ w.place path, Path.IsName name := by
  have horigin : ∀ name ∈ w.origin path, Path.IsName name := by
    rw [origin]
    split_ifs
    · simp
    · exact hcwd
  refine isName_of_mem_foldl_advance (fun name hname => ?_) horigin
  by_cases hdot : name = "."
  · exact .inl hdot
  by_cases hup : name = ".."
  · exact .inr (.inl hup)
  · exact .inr (.inr (Path.isName_of_mem_components hname hdot hup))

/-- Putting a node at a path keeps the names of a tree proper, so a tree that is built from nothing
by paths has proper names only. -/
theorem wellNamed_withNode (hnamed : w.tree.WellNamed) (hcwd : ∀ name ∈ w.cwd, Path.IsName name)
    (path : Path) (node : Node) : (w.withNode path node).tree.WellNamed := by
  have hplace := isName_of_mem_place hcwd path
  cases node with
  | directory => exact hnamed.makeDirectories hplace
  | file content =>
    have htail : ∀ name ∈ (w.place path).tail, Path.IsName name :=
      fun name hname => hplace name (List.mem_of_mem_tail hname)
    exact (hnamed.makeDirectories htail).put hplace

end Workspace

end SnapshotSuite
