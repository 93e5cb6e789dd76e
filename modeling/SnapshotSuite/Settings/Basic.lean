import SnapshotSuite.Compiler.Command
import SnapshotSuite.Tree.AccessError
/-!
# Settings of a suite

Where the fixtures are, which plugin their configurations run, and which command compiles them.
Each setting has a default of its own.
-/

namespace SnapshotSuite

/-- What a suite is told about its surroundings. -/
structure Settings where
  /-- The directory that holds the fixtures. -/
  fixturesDir : Path
  /-- The plugin, seen from the working directory. -/
  pluginFile : Path
  /-- The command that compiles the inputs. -/
  compiler : Command
deriving DecidableEq, Repr

/-- Why settings cannot be loaded. -/
inductive SettingsError where
  /-- Nothing stands at the path. -/
  | missing (path : Path)
  /-- What stands at the path cannot be read. -/
  | access (cause : AccessError)
  /-- The file is malformed, or a setting has the wrong type. What exactly is wrong with it is for the
  reader of tables to say, and is left out. -/
  | malformed
deriving DecidableEq, Repr

namespace Settings

/-- The command that compiles when none is set. -/
def defaultCompiler : Command where
  program := "npx"
  args := ["swc", Command.inputPlaceholder, "--config-file", Command.configPlaceholder,
    "--no-swcrc"]

instance : Inhabited Settings where
  default := ⟨"tests/fixtures", "swc_plugin_import_jsx_pragma.wasm", defaultCompiler⟩

end Settings

end SnapshotSuite
