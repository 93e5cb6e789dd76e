import SnapshotSuite.Compiler.Configuration
import SnapshotSuite.Compiler.Failure
import SnapshotSuite.Text.Occurrence
/-!
# Compilers that are programs

A command names a program and its arguments. Two placeholders in the arguments stand for the path
of the input and for the path of a file that holds the configuration. What the program does is a
parameter, a `Child`.

The file that holds the configuration is there for the time of a call, at a path that is a parameter
too. Making it is taken to succeed: `CompilerFailure.notPrepared`, the failure for that, is one that
other compilers give and a command never does.
-/

namespace SnapshotSuite

/-- Turns an input file and a configuration into a text. It sees the workspace and may change it;
`σ` is what else it keeps between calls. -/
abbrev Compiler (σ : Type) :=
  Path → Configuration → StateM (Workspace × σ) (Except CompilerFailure String)

/-- One call of a program. -/
structure Invocation where
  /-- The program. -/
  program : String
  /-- Its arguments, placeholders replaced. -/
  args : List String
  /-- The path of the configuration file. -/
  configPath : Path
  /-- What the configuration file holds. -/
  configText : String
deriving DecidableEq, Repr

/-- What a program leaves behind. -/
structure ChildOutput where
  /-- How it ended. -/
  status : ExitStatus
  /-- What it wrote to its standard output. -/
  stdout : Bytes
  /-- What it wrote to its standard error. -/
  stderr : Bytes
deriving DecidableEq, Repr

/-- What programs do: a call either does not start, or leaves something behind and may have changed
the workspace. -/
abbrev Child := Invocation → StateT Workspace (Except AccessError) ChildOutput

/-- A program and its arguments, with placeholders. -/
structure Command where
  /-- The program. -/
  program : String
  /-- The arguments. -/
  args : List String
deriving DecidableEq, Repr

namespace Command

/-- Stands for the path of the input. -/
def inputPlaceholder : String := "{input}"

/-- Stands for the path of the configuration file. -/
def configPlaceholder : String := "{config}"

/-- The arguments for an input and a configuration file. The placeholders of the input are replaced
first, those of the configuration after that in what has come out. -/
def expand (command : Command) (input configPath : Path) : List String :=
  command.args.map fun arg =>
    replaceAll configPlaceholder configPath (replaceAll inputPlaceholder input arg)

/-- The call for an input and a configuration. -/
def invocation (command : Command) (input configPath : Path) (configuration : Configuration) :
    Invocation where
  program := command.program
  args := command.expand input configPath
  configPath := configPath
  configText := configuration.text

/-- What a finished call is worth: its output, if it succeeded and wrote a text. -/
def accept (program : String) (output : ChildOutput) : Except CompilerFailure String :=
  if output.status.isSuccess then
    match Utf8.text? output.stdout with
    | some text => .ok text
    | none => .error (.notText program)
  else .error (.failed program output.status.text (Utf8.lossyText output.stderr))

/-- The text that a command makes of an input. A call that does not start changes nothing. -/
def transform (command : Command) (child : Child) (configPath : Path) (input : Path)
    (configuration : Configuration) : StateM Workspace (Except CompilerFailure String) := fun w =>
  match child (command.invocation input configPath configuration) w with
  | .error cause => (.error (.notStarted command.program cause), w)
  | .ok (output, w) => (accept command.program output, w)

/-- The compiler that runs a command. -/
def compiler (command : Command) (child : Child) (configPath : Path) : Compiler Unit :=
  fun input configuration (w, memory) =>
    let (result, w) := command.transform child configPath input configuration w
    (result, w, memory)

end Command

end SnapshotSuite
