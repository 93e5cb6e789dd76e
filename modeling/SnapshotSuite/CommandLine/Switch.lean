import SnapshotSuite.CommandLine.Request
/-!
# Switches

A switch has a long name and perhaps a letter. It is a flag, or it takes a value, which follows
behind an equals sign, behind the letter itself, or as the next word. No switch is given twice.
-/

namespace SnapshotSuite

/-- The switches of the program and of its commands. -/
inductive Switch where
  /-- Logs every event. -/
  | verbose
  /-- Names the file of settings. -/
  | config
  /-- Logs without colors. -/
  | noColor
  /-- Asks for help. -/
  | help
  /-- Asks for the version. -/
  | version
  /-- Names the directory of the fixtures. -/
  | fixtures
  /-- Records snapshots. -/
  | update
  /-- Narrows a run down. -/
  | filter
deriving DecidableEq, Repr

namespace Switch

/-- The long name. -/
def longName : Switch → String
  | verbose => "verbose"
  | config => "config"
  | noColor => "no-color"
  | help => "help"
  | version => "version"
  | fixtures => "fixtures"
  | update => "update"
  | filter => "filter"

/-- The letter. -/
def letter? : Switch → Option Char
  | verbose => some 'v'
  | config => some 'c'
  | help => some 'h'
  | version => some 'V'
  | fixtures => some 'f'
  | update => some 'u'
  | noColor | filter => none

/-- Whether the switch takes a value. -/
def takesValue : Switch → Bool
  | config | fixtures | filter => true
  | _ => false

/-- Whether a value will do: a path has at least one character. -/
def accepts (switch : Switch) (value : String) : Bool :=
  match switch with
  | config | fixtures => value ≠ ""
  | _ => true

/-- The switches that every command understands. -/
def shared : List Switch := [verbose, config, noColor, help, version]

/-- The switches of `run`. -/
def ofRun : List Switch := fixtures :: update :: filter :: shared

/-- The switches of `list` and `resolve`. -/
def ofLookup : List Switch := fixtures :: shared

end Switch

/-- What has been read of the words of a command. -/
structure Given where
  /-- The switches with their values, which are empty for flags. -/
  switches : List (Switch × String)
  /-- The words that are no switches. -/
  words : List String
deriving DecidableEq, Repr

namespace Given

/-- Nothing yet. -/
def nothing : Given := ⟨[], []⟩

/-- The value of a switch, if it was given. -/
def value? (given : Given) (switch : Switch) : Option String :=
  given.switches.lookup switch

/-- Whether a switch was given. -/
def has (given : Given) (switch : Switch) : Bool :=
  (given.value? switch).isSome

/-- One switch more, for the program or command by a name. -/
def add (name : String) (given : Given) (switch : Switch) (value : String) :
    Except Refusal Given :=
  match switch with
  | .help => .error .help
  | .version => .error (.version name)
  | switch =>
    if given.has switch ∨ ¬ switch.accepts value then .error .usage
    else .ok { given with switches := (switch, value) :: given.switches }

end Given

end SnapshotSuite
