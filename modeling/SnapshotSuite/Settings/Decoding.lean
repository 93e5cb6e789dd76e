import SnapshotSuite.Settings.Basic
import SnapshotSuite.Toml.Value
/-!
# Settings in a table

A setting that is there has to have the right type; one that is not takes its own default. Keys
that name no setting are passed over. The command may be given by keys or, as a list, by position.
-/

namespace SnapshotSuite

namespace Settings

/-- A text, by default `fallback`. -/
def text? (fallback : String) : Option Toml.Value → Option String
  | none => some fallback
  | some (.string value) => some value
  | some _ => none

/-- The text that a value is. -/
def asText? : Toml.Value → Option String
  | .string value => some value
  | _ => none

/-- A list of texts, by default `fallback`. -/
def texts? (fallback : List String) : Option Toml.Value → Option (List String)
  | none => some fallback
  | some (.array items) => items.mapM asText?
  | some _ => none

/-- A command, from its program and its arguments. -/
def ofParts? (program args : Option Toml.Value) : Option Command :=
  match text? defaultCompiler.program program, texts? defaultCompiler.args args with
  | some program, some args => some ⟨program, args⟩
  | _, _ => none

/-- A command. A list may hold more than a program and arguments, which does not count; a date
holds neither. -/
def command? : Option Toml.Value → Option Command
  | none | some (.dateTime _) => some defaultCompiler
  | some (.table fields) => ofParts? (fields.lookup "program") (fields.lookup "args")
  | some (.array items) => ofParts? items[0]? items[1]?
  | some _ => none

/-- The settings in a table. -/
def ofTable? (table : Toml.Table) : Option Settings :=
  match text? (default : Settings).fixturesDir (table.lookup "fixtures_dir"),
    text? (default : Settings).pluginFile (table.lookup "plugin_file"),
    command? (table.lookup "backend") with
  | some fixturesDir, some pluginFile, some compiler => some ⟨fixturesDir, pluginFile, compiler⟩
  | _, _, _ => none

end Settings

end SnapshotSuite
