import SnapshotSuite.Suite.Execution
/-!
# Events of a run

What a command logs while it runs. An event has a level and one line of text: a message, then
fields with their names. The log of a run follows from its outcomes.
-/

namespace SnapshotSuite

/-- How much an event matters. -/
inductive Level where
  /-- Something that a user should know. -/
  | warn
  /-- Something that a user may want to know. -/
  | info
  /-- Something that helps to find faults. -/
  | debug
deriving DecidableEq, Repr

/-- The word for a level. -/
def Level.name : Level → String
  | .warn => "WARN"
  | .info => "INFO"
  | .debug => "DEBUG"

/-- Something that happens while a command runs. -/
inductive Event where
  /-- The command begins. -/
  | started (command : String) (verbose : Bool)
  /-- The plugin was found. -/
  | pluginLocated (plugin : Plugin)
  /-- Some fixtures are about to run. -/
  | running (count : Nat) (mode : Mode)
  /-- A fixture was read and its configuration made. -/
  | configured (fixture : String) (configuration : Configuration)
  /-- The compiler is about to start. -/
  | compiling (program : String) (args : List String)
  /-- A snapshot is about to be written. -/
  | writing (path : Path)
  /-- The output of a fixture is that of its snapshot. -/
  | matched (fixture : String)
  /-- The output of a fixture was recorded. -/
  | recorded (fixture : String)
  /-- A fixture did not pass. -/
  | failed (fixture : String) (error : FixtureError)

/-- A character of a message: those that a terminal would obey are written as escapes. -/
def shownInMessage (c : Char) : List Char :=
  let code := Nat.toDigits 16 c.toNat
  if c = '\x07' ∨ c = '\x08' ∨ c = '\x0c' then '\\' :: 'x' :: '0' :: code
  else if c = '\x1b' ∨ c = '\x7f' then '\\' :: 'x' :: code
  else if 0x80 ≤ c.toNat ∧ c.toNat ≤ 0x9f then '\\' :: 'u' :: '{' :: code ++ ['}']
  else [c]

namespace Event

/-- The level of an event. -/
def level : Event → Level
  | .writing _ => .warn
  | .running .. | .matched _ | .recorded _ => .info
  | _ => .debug

/-- The text of an event. -/
def text : Event → String
  | .started command verbose =>
    "executing command=" ++ quoted command ++ " verbose=" ++ toString verbose
  | .pluginLocated plugin => "plugin location plugin=" ++ plugin.path
  | .running count mode => "running fixtures count=" ++ toString count ++ " mode=" ++ mode.name
  | .configured fixture configuration =>
    "resolved configuration fixture=" ++ fixture ++ " config=" ++ configuration.document.compact
  | .compiling program args =>
    "invoking compiler backend program=" ++ program ++ " args=" ++ quotedList args
  | .writing path => "writing snapshot path=" ++ path
  | .matched fixture => "ok fixture=" ++ fixture
  | .recorded fixture => "recorded fixture=" ++ fixture
  | .failed fixture error =>
    String.ofList (error.message.toList.flatMap shownInMessage) ++ " fixture=" ++ fixture

/-- The line of an event. -/
def line (event : Event) : String :=
  event.level.name ++ " " ++ event.text ++ "\n"

/-- Whether an event is logged. Those of the lowest level are logged only if that was asked for. -/
def isLogged (verbose : Bool) (event : Event) : Bool :=
  verbose || event.level ≠ .debug

end Event

/-- Whether the compiler gave a text that was to be recorded. -/
def Outcome.wrote (mode : Mode) (outcome : Outcome) : Bool :=
  match outcome.call, outcome.result with
  | none, _ => false
  | some _, .error (.compiler _) => false
  | some _, _ => mode == .record

/-- The event that ends a fixture. -/
def Outcome.verdict (outcome : Outcome) : Event :=
  match outcome.result with
  | .ok .matched => .matched outcome.name
  | .ok .recorded => .recorded outcome.name
  | .error error => .failed outcome.name error

/-- The events of a call of the compiler, a command that finds the configuration at a path. -/
def Call.events (command : Command) (configPath : Path) (fixture : String) (call : Call) :
    List Event :=
  [.configured fixture call.configuration,
    .compiling command.program (command.expand call.input configPath)]

/-- The events of a fixture, which stands in a directory. -/
def Outcome.events (command : Command) (configPath : Path) (mode : Mode) (dir : FixtureDir)
    (outcome : Outcome) : List Event :=
  (match outcome.call with
    | some call => call.events command configPath outcome.name
    | none => []) ++
  (if outcome.wrote mode then [.writing dir.snapshotPath] else []) ++ [outcome.verdict]

end SnapshotSuite
