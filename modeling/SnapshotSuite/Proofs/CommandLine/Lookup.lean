import SnapshotSuite.Proofs.CommandLine.Discovery

/-!
# Looking a fixture up by its name

A fixture is looked up by joining its name to the root, and whatever directory the joined path leads
to is taken. For the name of an entry this finds exactly what discovery finds. The empty name, the
names `.` and `..`, names with slashes and absolute paths are no names of entries: discovery never
lists them, while the lookup walks on from the root and takes the directory at the end of the walk.
-/

namespace SnapshotSuite

open Workspace

variable {w : Workspace} {root : Path} {name : String} {dir : FixtureDir} {dirs : List FixtureDir}
  {error : SuiteError}

namespace FixtureDir

/-- The lookup takes every text that leads from the root to a directory. -/
lemma named_eq_ok_iff :
    named w root name = .ok dir ↔
      dir = ⟨name, Path.join root name⟩ ∧ w.isDirectory (Path.join root name) = true := by
  unfold named named?
  by_cases hdirectory : w.isDirectory (Path.join root name) = true
  · simp [hdirectory, eq_comm]
  · simp [hdirectory]

/-- Every other text is refused. -/
lemma named_eq_error_iff :
    named w root name = .error error ↔
      error = .fixtureMissing (Path.join root name) ∧
        w.isDirectory (Path.join root name) = false := by
  unfold named named?
  by_cases hdirectory : w.isDirectory (Path.join root name) = true
  · simp [hdirectory]
  · simp [hdirectory, eq_comm]

lemma exists_named_eq_ok_iff :
    (∃ dir, named w root name = .ok dir) ↔ w.isDirectory (Path.join root name) = true := by
  simp only [named_eq_ok_iff, exists_eq_left]

/-- A fixture that is found is the one that its name leads to. -/
lemma named_of_mem (hdiscover : discover w root = .ok dirs) (hdir : dir ∈ dirs) :
    named w root dir.name = .ok dir := by
  obtain ⟨-, names, hnames, rfl⟩ := discover_eq_ok_iff_listsInOrder.mp hdiscover
  obtain ⟨name, hname, rfl⟩ := List.mem_map.mp hdir
  exact named_eq_ok_iff.mpr ⟨rfl, ((hnames.mem_iff name).mp hname).2⟩

/-- The names that are listed are the proper ones that lead from the root to a directory. -/
lemma mem_map_name_iff (hnamed : w.tree.WellNamed) (hdiscover : discover w root = .ok dirs) :
    name ∈ dirs.map FixtureDir.name ↔
      Path.IsName name ∧ w.isDirectory (Path.join root name) = true := by
  have hmem : ∀ dir : FixtureDir, dir ∈ dirs ↔ dir.IsBelow w root := fun _ =>
    mem_discover?_iff hnamed (discover_eq_ok_iff.mp hdiscover)
  rw [List.mem_map]
  constructor
  · rintro ⟨dir, hdir, rfl⟩
    obtain ⟨hname, hpath, hdirectory⟩ := (hmem dir).mp hdir
    exact ⟨hname, hpath ▸ hdirectory⟩
  · rintro ⟨hname, hdirectory⟩
    exact ⟨⟨name, Path.join root name⟩, (hmem _).mpr ⟨hname, rfl, hdirectory⟩, rfl⟩

end FixtureDir

/-- The empty name and a dot lead back to the root. -/
lemma Workspace.isDirectory_join_self (hroot : w.isDirectory root = true)
    (hname : name = "" ∨ name = ".") (hshort : Utf8.size (Path.join root name).toList ≤ 4095) :
    w.isDirectory (Path.join root name) = true := by
  obtain ⟨⟨husable, -, -⟩, hat⟩ := node?_eq_some_iff.mp (isDirectory_iff.mp hroot)
  have hrelative : Path.isAbsolute name = false := by
    rcases hname with rfl | rfl <;> decide
  have hnul : '\x00' ∉ name.toList := by
    rcases hname with rfl | rfl <;> decide
  refine (isDirectory_join_iff hroot hrelative).mpr
    ⟨Path.usable_join husable hrelative hnul hshort, ?_⟩
  rcases hname with rfl | rfl
  · exact ⟨trivial, hat⟩
  · exact ⟨⟨⟨hat, .inl rfl⟩, trivial⟩, hat⟩

/-- A name is looked up by where it leads from the root, and refused with the path that was tried if
no directory stands there. Discovery lists the names of entries that lead to directories. So the two
agree on a name exactly if it is the name of an entry or leads to no directory. What a relative name
leads to is found by walking its components from the root, slashes and dots included; the empty name
and a dot always lead to the root itself, unless the path gets too long, and are never listed. -/
theorem named_finds_discovered_iff (hnamed : w.tree.WellNamed)
    (hdiscover : discover w root = .ok dirs) (name : String) :
    (∀ dir, FixtureDir.named w root name = .ok dir ↔
        dir = ⟨name, Path.join root name⟩ ∧ w.isDirectory (Path.join root name) = true) ∧
      (∀ error, FixtureDir.named w root name = .error error ↔
        error = .fixtureMissing (Path.join root name) ∧
          w.isDirectory (Path.join root name) = false) ∧
      (∀ error, FixtureDir.named w root name = .error error →
        error.message = "Validation error: " ++ "Fixture not found: " ++ Path.join root name) ∧
      (name ∈ dirs.map FixtureDir.name ↔
        Path.IsName name ∧ w.isDirectory (Path.join root name) = true) ∧
      (((∃ dir, FixtureDir.named w root name = .ok dir) ↔ name ∈ dirs.map FixtureDir.name) ↔
        Path.IsName name ∨ w.isDirectory (Path.join root name) = false) ∧
      (Path.isAbsolute name = false →
        (w.isDirectory (Path.join root name) = true ↔
          Path.Usable (Path.join root name) ∧
            Walks w.tree (w.place root) (Path.components name) ∧
            w.tree.at? ((Path.components name).foldl advance (w.place root)) =
              some .directory)) ∧
      (name = "" ∨ name = "." → Utf8.size (Path.join root name).toList ≤ 4095 →
        (∃ dir, FixtureDir.named w root name = .ok dir) ∧
          name ∉ dirs.map FixtureDir.name) := by
  have hroot := isDirectory_of_discover? (discover_eq_ok_iff.mp hdiscover)
  have hlisted : name ∈ dirs.map FixtureDir.name ↔
      Path.IsName name ∧ w.isDirectory (Path.join root name) = true :=
    FixtureDir.mem_map_name_iff hnamed hdiscover
  refine ⟨fun dir => FixtureDir.named_eq_ok_iff, fun error => FixtureDir.named_eq_error_iff,
    fun error herror => ?message, hlisted, ?agree, isDirectory_join_iff hroot,
    fun hself hshort => ?self⟩
  case message =>
    obtain ⟨rfl, -⟩ := FixtureDir.named_eq_error_iff.mp herror
    exact (String.append_assoc).symm
  case agree =>
    rw [FixtureDir.exists_named_eq_ok_iff, hlisted]
    cases w.isDirectory (Path.join root name) <;> simp
  case self =>
    refine ⟨FixtureDir.exists_named_eq_ok_iff.mpr (isDirectory_join_self hroot hself hshort), ?_⟩
    rw [hlisted]
    rcases hself with rfl | rfl <;> exact fun h => absurd h.1 (by decide)

/-- In the small suite the name of an entry is looked up as it is discovered, a name that no entry
has is refused, and the empty name is looked up though it is not discovered. -/
theorem named_finds_discovered_iff_samples :
    FixtureDir.named .sample "suite" "a" = .ok ⟨"a", "suite/a"⟩ ∧
      "a" ∈ FixtureDir.samples.map FixtureDir.name ∧
      FixtureDir.named .sample "suite" "d" = .error (.fixtureMissing "suite/d") ∧
      (∃ dir, FixtureDir.named .sample "suite" "" = .ok dir) := by
  have hdiscover := discover_eq_ok_iff.mpr discover?_sample
  obtain ⟨hfound, -, -, hlisted, -⟩ := named_finds_discovered_iff wellNamed_sample hdiscover "a"
  obtain ⟨-, hrefused, -⟩ := named_finds_discovered_iff wellNamed_sample hdiscover "d"
  obtain ⟨-, -, -, -, -, -, hself⟩ := named_finds_discovered_iff wellNamed_sample hdiscover ""
  have hdirectory : Workspace.sample.isDirectory (Path.join "suite" "a") = true := by
    decide +kernel
  exact ⟨(hfound _).mpr ⟨rfl, hdirectory⟩, hlisted.mpr ⟨by decide, hdirectory⟩,
    (hrefused _).mpr ⟨rfl, by decide +kernel⟩, (hself (.inl rfl) (by decide +kernel)).1⟩

/-- Names that are not the name of any fixture of the small suite, and are looked up all the same: the
empty name, dots, names with slashes and an absolute path. -/
theorem named_finds_undiscovered :
    discover .sample "suite" = .ok FixtureDir.samples ∧
      ∀ name ∈ ["", ".", "..", "a/", "./a", "a/../b", "/suite/a"],
        FixtureDir.named .sample "suite" name = .ok ⟨name, Path.join "suite" name⟩ ∧
          name ∉ FixtureDir.samples.map FixtureDir.name := by
  have hdirectory : ∀ name ∈ ["", ".", "..", "a/", "./a", "a/../b", "/suite/a"],
      Workspace.sample.isDirectory (Path.join "suite" name) = true := by decide +kernel
  have hunlisted : ∀ name ∈ ["", ".", "..", "a/", "./a", "a/../b", "/suite/a"],
      name ∉ FixtureDir.samples.map FixtureDir.name := by decide
  exact ⟨discover_eq_ok_iff.mpr discover?_sample, fun name hname =>
    ⟨FixtureDir.named_eq_ok_iff.mpr ⟨rfl, hdirectory name hname⟩, hunlisted name hname⟩⟩

end SnapshotSuite
