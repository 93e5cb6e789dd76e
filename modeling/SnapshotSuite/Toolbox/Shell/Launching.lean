import SnapshotSuite.Toolbox.Shell.Redirecting
/-!
# Names of commands and the start of programs

A name means a command of the shell itself, a function, or a program that stands in one of the
directories for programs. A program gets the exported variables and the open descriptors.
-/

namespace SnapshotSuite

namespace Toolbox

namespace Shell

open ShellM

/-- The commands of the shell itself that functions can replace. -/
def ordinaryNames : List Octets :=
  ["[", "alias", "bg", "cd", "chdir", "command", "echo", "false", "fg", "getopts", "hash", "jobs",
    "kill", "printf", "pwd", "read", "test", "true", "type", "ulimit", "umask", "unalias", "wait"]

/-- What the name of a command means. -/
inductive Meaning where
  /-- A command of the shell itself, perhaps a special one. -/
  | builtin (isSpecial : Bool)
  /-- A function. -/
  | function (body : Command)
  /-- The program at a path. -/
  | program (path : Octets)
  /-- Nothing. -/
  | unknown (error : SystemError)

/-- The directories for programs that are looked through if nothing else is said. -/
def standardDirectories : List Octets :=
  ["/usr/local/sbin", "/usr/local/bin", "/usr/sbin", "/usr/bin", "/sbin", "/bin"]

/-- The directories for programs. An empty one is the working directory. -/
def State.directories (state : State) : List Octets :=
  splitAtChar ':' ((state.value? "PATH").getD "")

/-- What the name of a command means. Functions can be passed over, and other directories looked
through. -/
def meaningOf (runner : Runner) (hasFunctions : Bool) (directories : List Octets)
    (name : Octets) : ShellM Meaning := do
  let machine ← get
  let state := machine.state
  if name.toList.contains '/' then return .program name
  else
    match if hasFunctions then state.functions.lookup name else none with
    | some body => return .function body
    | none =>
      if specialNames.contains name then return .builtin true
      else if ordinaryNames.contains name then return .builtin false
      else
        match runner.tools.search machine.world state.process directories name with
        | .ok path => return .program path
        | .error error => return .unknown error

/-- The words for a program that cannot be started. -/
def startFault (error : SystemError) : Octets :=
  if error.isAbsence then "not found" else error.words

/-- The status of a shell that cannot start a program. -/
def startStatus (error : SystemError) : Nat :=
  if error.isAbsence ∨ error = .access .nameTooLong then 127 else 126

/-- Takes note of the path at which a program has been found. -/
def noteFound (name path : Octets) : ShellM Unit :=
  modifyState fun state =>
    if (state.found.lookup name).isSome then state
    else { state with found := state.found ++ [(name, path)] }

/-- The process that a program runs in. -/
def programProcess (number : Nat) : ShellM Process := do
  let state ← state
  let deaf := (state.traps.filter (·.2 = "")).map (·.1)
  return { state.process with
    number
    parent := if number = state.process.number then state.process.parent else state.process.number
    environment := state.environment
    ignored := state.process.ignored ++ deaf }

/-- Runs a tool in a process of a number. -/
def runTool (number : Nat) (tool : Tool) (name : Octets) (words : List Octets) :
    ShellM ExitStatus := do
  let process ← programProcess number
  let machine ← get
  let (ending, world) := ((tool name words).run process).run machine.world
  set { machine with world }
  return ending

/-- Lets a program take the place of the shell. -/
def becomeTool (tool : Tool) (name : Octets) (words : List Octets) : ShellM Unit := do
  let ending ← runTool (← state).process.number tool name words
  throw (.gone ending)

/-- Runs the program at a path, called by some name, and gives its status. A program that ends the
shell takes its place. While a program does nothing but wait, tasks are carried out. -/
def launch (runner : Runner) (mode : Mode) (path name : Octets) (words : List Octets) :
    ShellM Nat := do
  let machine ← get
  match runner.tools.ofScript machine.world machine.state.process path with
  | .error error =>
    warn (name ++ ": " ++ startFault error)
    return startStatus error
  | .ok tool =>
    if name = "sleep" then runTasks runner
    if mode.isLast ∧ !machine.state.hasTraps then
      becomeTool tool name words
      return 0
    else
      let _ ← takePlace
      let number := (← get).world.lastProcess + 1
      modify fun machine => { machine with world := { machine.world with lastProcess := number } }
      let ending ← runTool number tool name words
      noteEnd ending
      return statusOf ending

end Shell

end Toolbox

end SnapshotSuite
