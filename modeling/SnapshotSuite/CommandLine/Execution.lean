import SnapshotSuite.CommandLine.Request
import SnapshotSuite.Fixture.Discovery
import SnapshotSuite.Settings.Loading
import SnapshotSuite.Suite.Error
import SnapshotSuite.Suite.Event
import SnapshotSuite.Suite.Report
/-!
# Carrying out requests

The settings are loaded first and then the command is carried out. Only a run calls the compiler,
and only a run that records writes anything.
-/

namespace SnapshotSuite

/-- The surroundings of a command. -/
structure Surroundings where
  /-- The path of the working directory, which may be no text. -/
  directory : Bytes
  /-- The variables that are set. -/
  environment : Environment
  /-- The home directory that the system has on record for the user, if it has one. -/
  recordedHome : Option Path := none
  /-- What programs do. -/
  child : Child
  /-- The path of the file that holds the configuration while a program runs. -/
  configPath : Path
  /-- How long a run takes, in seconds. -/
  elapsed : String

/-- What a command leaves behind. -/
structure Completion where
  /-- What it printed. -/
  output : String
  /-- What happened while it ran. -/
  events : List Event
  /-- Whether it succeeded, or why not. -/
  result : Except SuiteError Unit
  /-- The files and directories afterwards. -/
  workspace : Workspace

namespace Surroundings

/-- The path of the home directory: that of the variable, unless it is empty, or the one on record. -/
def home? (surroundings : Surroundings) : Option Path :=
  (surroundings.environment "HOME").filter (· ≠ "") <|> surroundings.recordedHome

/-- The directories in which the user keeps settings. -/
def userDirs (surroundings : Surroundings) : UserDirs :=
  .ofEnvironment surroundings.home? (surroundings.environment "XDG_CONFIG_HOME")

/-- The mode of a run: recording, if a switch or the environment asks for it. -/
def mode (surroundings : Surroundings) (update : Bool) : Mode :=
  if update then .record else .ofSetting (surroundings.environment "UPDATE")

end Surroundings

/-- The fixtures below a root. -/
def discover (w : Workspace) (root : Path) : Except SuiteError (List FixtureDir) :=
  match discover? w root with
  | some dirs => .ok dirs
  | none => .error (.rootMissing root)

/-- The fixture of a name below a root. -/
def FixtureDir.named (w : Workspace) (root : Path) (name : String) :
    Except SuiteError FixtureDir :=
  match FixtureDir.named? w root name with
  | some dir => .ok dir
  | none => .error (.fixtureMissing (Path.join root name))

/-- The fixtures whose name has the filter in it; all of them without a filter. -/
def select (filter : Option String) (dirs : List FixtureDir) : List FixtureDir :=
  match filter with
  | some pattern => dirs.filter fun dir => occursIn pattern dir.name
  | none => dirs

namespace Settings

/-- The directory of the fixtures: the one that was asked for, or that of the settings. -/
def root (settings : Settings) (fixtures : Option Path) : Path :=
  fixtures.getD settings.fixturesDir

/-- The plugin of the settings. -/
def plugin (settings : Settings) (surroundings : Surroundings) : Except SuiteError Plugin :=
  (Plugin.inDirectory surroundings.directory settings.pluginFile).mapError SuiteError.plugin

/-- The suite of a run. -/
def suite (settings : Settings) (surroundings : Surroundings) (plugin : Plugin) (mode : Mode) :
    Suite Unit :=
  ⟨plugin, settings.compiler.compiler surroundings.child surroundings.configPath, mode⟩

/-- The fixtures and the plugin of a run. -/
def prepare (settings : Settings) (surroundings : Surroundings) (w : Workspace)
    (fixtures : Option Path) (filter : Option String) :
    Except SuiteError (List FixtureDir × Plugin) := do
  let dirs ← discover w (settings.root fixtures)
  let plugin ← settings.plugin surroundings
  return (select filter dirs, plugin)

/-- Success, unless some fixtures did not pass. -/
def verdict (outcomes : List Outcome) : Except SuiteError Unit :=
  if failedCount outcomes = 0 then .ok () else .error (.fixturesFailed (failedCount outcomes))

/-- Runs the fixtures whose name has the filter in it. -/
def run (settings : Settings) (surroundings : Surroundings) (verbose : Bool)
    (fixtures : Option Path) (mode : Mode) (filter : Option String) (w : Workspace) : Completion :=
  let started := Event.started "run" verbose
  match settings.prepare surroundings w fixtures filter with
  | .error error => ⟨"", [started], .error error, w⟩
  | .ok (dirs, plugin) =>
    let (outcomes, w, _) := (settings.suite surroundings plugin mode).run dirs (w, ())
    { output := report mode surroundings.elapsed outcomes
      events :=
        [started, .pluginLocated plugin, .running dirs.length mode] ++
          (dirs.zip outcomes).flatMap fun (dir, outcome) =>
            outcome.events settings.compiler surroundings.configPath mode dir
      result := verdict outcomes
      workspace := w }

/-- Lists the names of the fixtures, one a line. -/
def list (settings : Settings) (fixtures : Option Path) (w : Workspace) : Completion :=
  match discover w (settings.root fixtures) with
  | .error error => ⟨"", [], .error error, w⟩
  | .ok dirs => ⟨String.join (dirs.map fun dir => dir.name ++ "\n"), [], .ok (), w⟩

/-- The configuration of the fixture of a name. -/
def configuration (settings : Settings) (surroundings : Surroundings) (name : String)
    (fixtures : Option Path) (w : Workspace) : Except SuiteError Configuration := do
  let dir ← FixtureDir.named w (settings.root fixtures) name
  let fixture ← (Fixture.load w dir).mapError SuiteError.fixture
  let plugin ← settings.plugin surroundings
  return plugin.configure fixture.extension fixture.host fixture.payload

/-- Prints the configuration of the fixture of a name. -/
def resolve (settings : Settings) (surroundings : Surroundings) (name : String)
    (fixtures : Option Path) (w : Workspace) : Completion :=
  match settings.configuration surroundings name fixtures w with
  | .error error => ⟨"", [], .error error, w⟩
  | .ok configuration => ⟨configuration.text ++ "\n", [], .ok (), w⟩

end Settings

namespace Request

/-- Carries out a request whose settings have been loaded. -/
def perform (request : Request) (surroundings : Surroundings) (settings : Settings)
    (w : Workspace) : Completion :=
  match request.action with
  | .run fixtures update filter =>
    settings.run surroundings request.verbose fixtures (surroundings.mode update) filter w
  | .list fixtures => settings.list fixtures w
  | .resolve name fixtures => settings.resolve surroundings name fixtures w

/-- Carries out a request. -/
def execute (request : Request) (surroundings : Surroundings) (w : Workspace) : Completion :=
  match Settings.load w surroundings.userDirs request.settingsFile with
  | .error error => ⟨"", [], .error (.settings error), w⟩
  | .ok settings => request.perform surroundings settings w

end Request

end SnapshotSuite
