import SnapshotSuite.Settings.Decoding
import SnapshotSuite.Toml.Reader
/-!
# Loading settings

Settings stand in a file: one that is named, or the first of three that exists. Once a file has
been chosen it counts, even if it cannot be read: the ones after it are never a way out.
-/

namespace SnapshotSuite

/-- The directories in which a user keeps settings. -/
structure UserDirs where
  /-- The home directory, if it is known. -/
  home? : Option Path
  /-- The directory for settings, if it is known. -/
  settings? : Option Path
deriving DecidableEq, Repr

/-- The directories that follow from the home directory and from the one that the environment names
for settings. A home directory without a path is none. The one for settings counts only if its path
starts at the root; without it, settings are kept below the home directory. -/
def UserDirs.ofEnvironment (home settings : Option String) : UserDirs :=
  let home? := home.filter (· ≠ "")
  ⟨home?, settings.filter Path.isAbsolute <|> home?.map (Path.join · ".config")⟩

namespace Settings

/-- The name of a file of settings. -/
def fileName : String := "jsxsnap.toml"

/-- The settings in the file at a path. -/
def ofFile (w : Workspace) (path : Path) : Except SettingsError Settings :=
  if w.isPresent path then
    match w.readText path with
    | .error cause => .error (.access cause)
    | .ok text =>
      match (Toml.read? text).bind ofTable? with
      | some settings => .ok settings
      | none => .error .malformed
  else .error (.missing path)

/-- The paths at which settings are looked for, in order. -/
def candidates (dirs : UserDirs) : List Path :=
  fileName ::
    ((dirs.home?.map (Path.join · ".config")).toList ++ dirs.settings?.toList).map
      fun dir => Path.join (Path.join dir "jsxsnap") fileName

/-- The settings of the first file that exists, or the defaults. -/
def search (w : Workspace) (dirs : UserDirs) : Except SettingsError Settings :=
  match (candidates dirs).find? w.isPresent with
  | some path => ofFile w path
  | none => .ok default

/-- The settings of a file that is named, or of the first that is found. -/
def load (w : Workspace) (dirs : UserDirs) : Option Path → Except SettingsError Settings
  | some path => ofFile w path
  | none => search w dirs

end Settings

end SnapshotSuite
