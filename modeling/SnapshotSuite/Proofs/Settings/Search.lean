import Mathlib.Data.List.ReduceOption
import SnapshotSuite.Proofs.Text.Utf8
import SnapshotSuite.Proofs.Tree.Way
import SnapshotSuite.Settings.Loading
import SnapshotSuite.Suite.Error

/-!
# The search for settings

Settings are looked for at up to three paths, and the first one that leads anywhere counts, whatever
it leads to: a directory or a file that cannot be read is an error there, and neither a path behind it
nor the defaults are a way out. A path that is named is the only one that counts. So two runs that see
the same at the paths up to the chosen one load the same, whatever stands at the paths behind it.
-/

namespace SnapshotSuite

open Workspace

namespace Settings

variable {w w' : Workspace} {dirs : UserDirs} {path chosen : Path}
  {paths paths' passed later later' : List Path}
  {result : Except SettingsError Settings}

/-! ### One file -/

/-- What the settings in a file come to, by what its path leads to. -/
inductive Gives (w : Workspace) (path : Path) : Except SettingsError Settings → Prop where
  /-- The path leads nowhere. -/
  | missing (hnode : w.node? path = none) : Gives w path (.error (.missing path))
  /-- A directory cannot be read. -/
  | directory (hnode : w.node? path = some .directory) :
    Gives w path (.error (.access .isDirectory))
  /-- The file holds no text. -/
  | notText (content : Bytes) (hnode : w.node? path = some (.file content))
    (htext : ¬Utf8.IsText content) : Gives w path (.error (.access .notText))
  /-- The text is no table, or the table gives a value of the wrong type. -/
  | malformed (text : String) (hnode : w.node? path = some (.file (Utf8.bytesOf text)))
    (htable : ∀ table, Toml.read? text = some table → ofTable? table = none) :
    Gives w path (.error .malformed)
  /-- The text is a table of settings. -/
  | settings (text : String) (table : Toml.Table) (settings : Settings)
    (hnode : w.node? path = some (.file (Utf8.bytesOf text)))
    (htable : Toml.read? text = some table) (hsettings : ofTable? table = some settings) :
    Gives w path (.ok settings)

/-- Every path gives something. -/
lemma exists_gives (w : Workspace) (path : Path) : ∃ result, Gives w path result := by
  match hnode : w.node? path with
  | none => exact ⟨_, .missing hnode⟩
  | some .directory => exact ⟨_, .directory hnode⟩
  | some (.file content) =>
    by_cases htext : Utf8.IsText content
    · obtain ⟨text, rfl⟩ := htext
      cases hsettings : (Toml.read? text).bind ofTable? with
      | none => exact ⟨_, .malformed text hnode (Option.bind_eq_none_iff.mp hsettings)⟩
      | some settings =>
        obtain ⟨table, htable, hsettings⟩ := Option.bind_eq_some_iff.mp hsettings
        exact ⟨_, .settings text table settings hnode htable hsettings⟩
    · exact ⟨_, .notText content hnode htext⟩

lemma Gives.ofFile_eq (h : Gives w path result) : ofFile w path = result := by
  have hpresent {node : Node} (hnode : w.node? path = some node) : w.isPresent path = true := by
    rw [isPresent, hnode, Option.isSome_some]
  cases h with
  | missing hnode => rw [ofFile, if_neg (by simp [isPresent, hnode])]
  | directory hnode => rw [ofFile, if_pos (hpresent hnode), readText_of_directory hnode]
  | notText content hnode htext =>
    rw [ofFile, if_pos (hpresent hnode), readText_of_file hnode, Utf8.text?_eq_none_iff.mpr htext]
  | malformed text hnode htable =>
    rw [ofFile, if_pos (hpresent hnode), readText_of_file hnode, Utf8.text?_bytesOf]
    simp only [Option.bind_eq_none_iff.mpr htable]
  | settings text table settings hnode htable hsettings =>
    rw [ofFile, if_pos (hpresent hnode), readText_of_file hnode, Utf8.text?_bytesOf]
    simp only [htable, Option.bind_some, hsettings]

/-- The settings of a file are what its path gives. -/
lemma ofFile_eq_iff : ofFile w path = result ↔ Gives w path result := by
  refine ⟨?_, Gives.ofFile_eq⟩
  rintro rfl
  obtain ⟨result, h⟩ := exists_gives w path
  rwa [h.ofFile_eq]

/-- What a path leads to decides what it gives. -/
lemma Gives.of_node?_eq (hsame : w'.node? path = w.node? path) (h : Gives w path result) :
    Gives w' path result := by
  cases h with
  | missing hnode => exact .missing (hsame.trans hnode)
  | directory hnode => exact .directory (hsame.trans hnode)
  | notText content hnode htext => exact .notText content (hsame.trans hnode) htext
  | malformed text hnode htable => exact .malformed text (hsame.trans hnode) htable
  | settings text table settings hnode htable hsettings =>
    exact .settings text table settings (hsame.trans hnode) htable hsettings

lemma ofFile_congr (h : w'.node? path = w.node? path) : ofFile w' path = ofFile w path := by
  obtain ⟨result, hgives⟩ := exists_gives w path
  rw [hgives.ofFile_eq, (hgives.of_node?_eq h).ofFile_eq]

/-! ### The first of some paths -/

/-- Of some paths one is the first that leads anywhere. -/
structure Chooses (w : Workspace) (paths passed : List Path) (chosen : Path)
    (later : List Path) : Prop where
  /-- The chosen path stands behind those passed over and before the later ones. -/
  split : paths = passed ++ chosen :: later
  /-- The paths passed over lead nowhere. -/
  passed : ∀ path ∈ passed, w.isPresent path = false
  /-- The chosen path leads somewhere. -/
  chosen : w.isPresent chosen = true

/-- A path is chosen as soon as any of the paths leads anywhere. -/
lemma exists_chooses_iff :
    (∃ passed chosen later, Chooses w paths passed chosen later) ↔
      ∃ path ∈ paths, w.isPresent path = true := by
  constructor
  · rintro ⟨passed, chosen, later, h⟩
    exact ⟨chosen, by simp [h.split], h.chosen⟩
  · intro h
    obtain ⟨chosen, hfind⟩ := Option.isSome_iff_exists.mp (List.find?_isSome.mpr h)
    obtain ⟨hchosen, passed, later, hsplit, hpassed⟩ := List.find?_eq_some_iff_append.mp hfind
    exact ⟨passed, chosen, later, hsplit, by simpa using hpassed, hchosen⟩

/-- The settings are those of the chosen file. -/
lemma load_of_chooses (h : Chooses w (candidates dirs) passed chosen later) :
    load w dirs none = ofFile w chosen := by
  have hpassed : ∀ path ∈ passed, (!w.isPresent path) = true := by simpa using h.passed
  have hfind : (candidates dirs).find? w.isPresent = some chosen :=
    List.find?_eq_some_iff_append.mpr ⟨h.chosen, passed, later, h.split, hpassed⟩
  rw [load, search, hfind]

/-- Without a file the defaults count. -/
lemma load_of_missing (h : ∀ path ∈ candidates dirs, w.isPresent path = false) :
    load w dirs none = .ok default := by
  have hfind : (candidates dirs).find? w.isPresent = none := by simpa using h
  rw [load, search, hfind]

/-- The same path is chosen where it leads to the same and those passed over still lead nowhere. -/
lemma Chooses.of_node?_eq (h : Chooses w paths passed chosen later)
    (hsplit : paths' = passed ++ chosen :: later')
    (hpassed : ∀ path ∈ passed, w'.isPresent path = false)
    (hchosen : w'.node? chosen = w.node? chosen) : Chooses w' paths' passed chosen later' where
  split := hsplit
  passed := hpassed
  chosen := by
    rw [isPresent, hchosen]
    exact h.chosen

/-! ### What a search depends on -/

/-- The search has come to a path, and nothing behind it makes a difference. -/
structure CommitsTo (w : Workspace) (dirs : UserDirs) (passed : List Path) (chosen : Path)
    (later : List Path) : Prop where
  /-- The settings are those of the file, errors included. -/
  result : load w dirs none = ofFile w chosen
  /-- Any workspace in which the paths up to the chosen one lead to the same gives the same
  settings, whatever paths come after them. -/
  observed : ∀ w' dirs' later', candidates dirs' = passed ++ chosen :: later' →
    (∀ path ∈ passed ++ [chosen], w'.node? path = w.node? path) →
    load w' dirs' none = load w dirs none
  /-- Whatever comes to stand at the places of the later paths, or is taken from there, makes no
  difference as far as the chosen path is apart from them and the paths passed over still lead
  nowhere. -/
  unobserved : ∀ w', ChangedAt (placesOf w later) w w' → (∀ other ∈ later, w.Apart other chosen) →
    (∀ path ∈ passed, w'.isPresent path = false) → load w' dirs none = load w dirs none
  /-- From a later path that leads to no directory the chosen one is apart if it is another file. -/
  apart_iff : ∀ other ∈ later, w.tree.at? (w.place other) ≠ some .directory →
    (w.Apart other chosen ↔ w.place other ≠ w.place chosen)

/-- A path that is named is all that counts. -/
structure Obeys (w : Workspace) (dirs : UserDirs) (path : Path) : Prop where
  /-- The settings are those of the file, errors included. -/
  result : load w dirs (some path) = ofFile w path
  /-- A path that leads nowhere is an error of the configuration. -/
  missing : w.isPresent path = false → load w dirs (some path) = .error (.missing path) ∧
    (SuiteError.settings (.missing path)).message =
      "Configuration error: " ++ ("Configuration file not found: " ++ path)
  /-- Any workspace in which the path leads to the same gives the same settings. -/
  observed : ∀ w' dirs', w'.node? path = w.node? path →
    load w' dirs' (some path) = load w dirs (some path)
  /-- Whatever comes to stand at the places where settings are looked for otherwise, or is taken
  from there, makes no difference as far as the path is apart from them. -/
  unobserved : ∀ w' dirs', ChangedAt (placesOf w (candidates dirs)) w w' →
    (∀ other ∈ candidates dirs, w.Apart other path) →
    load w' dirs' (some path) = load w dirs (some path)
  /-- From a place without a directory a path that leads anywhere is apart if it is another file. -/
  apart_iff : w.isPresent path = true → ∀ other ∈ candidates dirs,
    w.tree.at? (w.place other) ≠ some .directory →
    (w.Apart other path ↔ w.place other ≠ w.place path)

lemma Chooses.commitsTo (h : Chooses w (candidates dirs) passed chosen later) :
    CommitsTo w dirs passed chosen later := by
  have hsame : ∀ w' dirs' later', candidates dirs' = passed ++ chosen :: later' →
      (∀ path ∈ passed, w'.isPresent path = false) → w'.node? chosen = w.node? chosen →
      load w' dirs' none = load w dirs none := by
    intro w' dirs' later' hsplit hpassed hchosen
    rw [load_of_chooses h, load_of_chooses (h.of_node?_eq hsplit hpassed hchosen),
      ofFile_congr hchosen]
  refine ⟨load_of_chooses h, fun w' dirs' later' hsplit hnode => ?_,
    fun w' hchanged hapart hpassed => ?_, fun other _ => apart_iff_of_isPresent h.chosen⟩
  · refine hsame w' dirs' later' hsplit (fun path hpath => ?_) (hnode chosen (by simp))
    rw [isPresent, hnode path (List.mem_append_left _ hpath)]
    exact h.passed path hpath
  · exact hsame w' dirs later h.split hpassed (hchanged.node?_eq_of_apart hapart)

lemma obeys (w : Workspace) (dirs : UserDirs) (path : Path) : Obeys w dirs path where
  result := rfl
  missing habsent := by
    rw [isPresent, Option.isSome_eq_false_iff, Option.isNone_iff_eq_none] at habsent
    exact ⟨ofFile_eq_iff.mpr (.missing habsent), rfl⟩
  observed _ _ hnode := ofFile_congr hnode
  unobserved _ _ hchanged hapart := ofFile_congr (hchanged.node?_eq_of_apart hapart)
  apart_iff hpath _ _ hother := apart_iff_of_isPresent hpath hother

/-- Without a path that is named, settings are those of the first file that exists among up to three,
errors included, and the defaults exactly if there is none or the file itself gives them. With a path
that is named, they are those of that file. Neither what stands behind the chosen path nor, if a path
is named, any of the three makes a difference, as long as the chosen path does not lead there. What a
file gives is decided by what stands at its path: whatever is no table of settings is an error. -/
theorem load_commits (w : Workspace) (dirs : UserDirs) :
    candidates dirs =
        [some "jsxsnap.toml",
          dirs.home?.map fun home =>
            Path.join (Path.join (Path.join home ".config") "jsxsnap") "jsxsnap.toml",
          dirs.settings?.map fun dir => Path.join (Path.join dir "jsxsnap") "jsxsnap.toml"
          ].reduceOption ∧
      ((∃ passed chosen later, Chooses w (candidates dirs) passed chosen later) ↔
        ∃ path ∈ candidates dirs, w.isPresent path = true) ∧
      (∀ passed chosen later, Chooses w (candidates dirs) passed chosen later →
        CommitsTo w dirs passed chosen later) ∧
      (load w dirs none = .ok default ↔
        (∀ path ∈ candidates dirs, w.isPresent path = false) ∨
          ∃ passed chosen later, Chooses w (candidates dirs) passed chosen later ∧
            Gives w chosen (.ok default)) ∧
      (∀ path, Obeys w dirs path) ∧
      ∀ path result, ofFile w path = result ↔ Gives w path result := by
  refine ⟨?candidates, exists_chooses_iff, fun _ _ _ h => h.commitsTo, ⟨?default, ?given⟩,
    obeys w dirs, fun _ _ => ofFile_eq_iff⟩
  case candidates =>
    obtain ⟨home?, settings?⟩ := dirs
    cases home? <;> cases settings? <;> rfl
  case default =>
    intro hload
    by_cases hpresent : ∃ path ∈ candidates dirs, w.isPresent path = true
    · obtain ⟨passed, chosen, later, h⟩ := exists_chooses_iff.mpr hpresent
      exact .inr ⟨passed, chosen, later, h, ofFile_eq_iff.mp (load_of_chooses h ▸ hload)⟩
    · exact .inl (by simpa using hpresent)
  case given =>
    rintro (hmissing | ⟨passed, chosen, later, h, hgives⟩)
    · exact load_of_missing hmissing
    · rw [load_of_chooses h, ofFile_eq_iff]
      exact hgives

/-- A working directory with settings that are no text, and a home directory with settings that are. -/
def brokenAndGood : Workspace where
  tree := ⟨[(["work"], .directory), (["jsxsnap.toml", "work"], .file [0xFF]), (["home"], .directory),
    ([".config", "home"], .directory), (["jsxsnap", ".config", "home"], .directory),
    (["jsxsnap.toml", "jsxsnap", ".config", "home"], .file [])], []⟩
  cwd := ["work"]

/-- The user's directories, settings kept below the home directory. -/
def homeOnly : UserDirs :=
  ⟨some "/home", some "/home/.config"⟩

/-- The same working directory, and a directory in the place of the settings below the home
directory. -/
def brokenAndDirectory : Workspace :=
  { brokenAndGood with
    tree := brokenAndGood.tree.put ["jsxsnap.toml", "jsxsnap", ".config", "home"] .directory }

/-- A broken file in the working directory is an error even if there are good settings below the home
directory, and it stays that error whatever comes in their place. A path that is named and leads
nowhere is an error next to existing files, and without any file the defaults count. -/
theorem load_commits_samples :
    load brokenAndGood homeOnly none = .error (.access .notText) ∧
      load brokenAndDirectory homeOnly none = .error (.access .notText) ∧
      load brokenAndGood homeOnly (some "missing.toml") = .error (.missing "missing.toml") ∧
      load ⟨Tree.empty, []⟩ ⟨none, none⟩ none = .ok default := by
  obtain ⟨-, -, hcommits, -, hobeys, hgives⟩ := load_commits brokenAndGood homeOnly
  have hchooses : Chooses brokenAndGood (candidates homeOnly) [] "jsxsnap.toml"
      ["/home/.config/jsxsnap/jsxsnap.toml", "/home/.config/jsxsnap/jsxsnap.toml"] :=
    ⟨rfl, by simp, by decide +kernel⟩
  obtain ⟨hresult, -, hunobserved, hapart⟩ := hcommits _ _ _ hchooses
  have hbroken : load brokenAndGood homeOnly none = .error (.access .notText) := by
    rw [hresult, hgives]
    exact .notText [0xFF] (by decide +kernel) (Utf8.text?_eq_none_iff.mp (by decide +kernel))
  refine ⟨hbroken, ?directory, ?missing, ?nothing⟩
  case directory =>
    have hchanged : ChangedAt (placesOf brokenAndGood
        ["/home/.config/jsxsnap/jsxsnap.toml", "/home/.config/jsxsnap/jsxsnap.toml"])
        brokenAndGood brokenAndDirectory := by
      refine ⟨rfl, fun place hplace => Tree.at?_put_of_ne fun heq => hplace ?_⟩
      exact ⟨"/home/.config/jsxsnap/jsxsnap.toml", by simp, heq ▸ by decide +kernel⟩
    refine (hunobserved _ hchanged (fun other hother => ?_) (by simp)).trans hbroken
    obtain rfl : other = "/home/.config/jsxsnap/jsxsnap.toml" := by simpa using hother
    exact (hapart _ hother (by decide +kernel)).mpr (by decide +kernel)
  case missing =>
    exact ((hobeys "missing.toml").missing (by decide +kernel)).1
  case nothing =>
    obtain ⟨-, -, -, hdefault, -⟩ := load_commits ⟨Tree.empty, []⟩ ⟨none, none⟩
    exact hdefault.mpr (.inl (by decide +kernel))

end Settings

end SnapshotSuite
