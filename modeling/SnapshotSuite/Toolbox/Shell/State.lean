import SnapshotSuite.Toolbox.Programs
import SnapshotSuite.Toolbox.Signal
import SnapshotSuite.Toolbox.Shell.Syntax
/-!
# The state of a shell

A shell keeps variables, functions, settings and what it does about signals. An action changes this
state and the world, and may come to a halt: whatever encloses it decides how far the halt reaches.
Commands that are not waited for are put off as tasks, which are carried out when the shell waits
for them or ends.
-/

namespace SnapshotSuite

namespace Toolbox

namespace Shell

/-- A variable. -/
structure Variable where
  /-- Its value, if it has one. -/
  value : Option Octets
  /-- Whether programs get it. -/
  isExported : Bool
  /-- Whether it keeps its value. -/
  isReadOnly : Bool
deriving DecidableEq, Repr

/-- What is local to a call. -/
structure Scope where
  /-- The local variables, with what they were outside. -/
  outer : List (Octets × Option Variable)
  /-- The settings outside, if the settings are local. -/
  outerSettings? : Option (List Char)

/-- What a shell has to itself. -/
structure State where
  /-- Its name, which stands in front of complaints. -/
  name : Octets
  /-- The operands, which the numbered parameters stand for. -/
  operands : List Octets
  /-- The variables. -/
  bindings : List (Octets × Variable)
  /-- The functions and their commands. -/
  functions : List (Octets × Command)
  /-- The aliases. -/
  aliases : List (Octets × Octets)
  /-- The programs that have been found by name, with their paths. -/
  found : List (Octets × Octets)
  /-- The letters of the settings that are on. -/
  settings : List Char
  /-- How the last command ended. -/
  status : Nat
  /-- The documents of the scripts that have been read. -/
  documents : Array Word
  /-- The process. -/
  process : Process
  /-- The number of the process that the first shell runs in. -/
  mainProcess : Nat
  /-- The number of the last process that was not waited for. -/
  background : Option Nat
  /-- What is done about signals: a script, or nothing at all if it is empty. -/
  traps : List (Nat × Octets)
  /-- The signals that have come and have a script. -/
  pending : List Nat
  /-- The line of the command. -/
  line : Nat
  /-- The line that the script has been read to. -/
  lineRead : Nat
  /-- The command that complaints come from. -/
  caller : Option Octets
  /-- How many loops are open. -/
  loops : Nat
  /-- How many calls of functions are open. -/
  calls : Nat
  /-- What is local to the calls that are open. -/
  scopes : List Scope
  /-- The letters that are left of a word with options. -/
  optionLetters : List Char
  /-- What the command has printed and not yet written, the last part first. -/
  printed : List Octets
  /-- The status with which the shell is going to end, if that is decided. -/
  finalStatus : Option Nat
  /-- How the last script in a word of the command ended. -/
  outputStatus : Nat

/-- A command that is not waited for. -/
structure Task where
  /-- The number of its process. -/
  number : Nat
  /-- The number of the process that started it. -/
  owner : Nat
  /-- What it does. -/
  command : Command
  /-- The state in which it begins. -/
  state : State
  /-- How it ended, if it has. -/
  ending : Option ExitStatus
  /-- Whether the shell has taken note of its end. -/
  isNoted : Bool
  /-- Its place among the tasks of its shell. -/
  place : Nat
  /-- Whether the shell has waited for it: its place can then be taken. -/
  isWaited : Bool

/-- A world and the shell that runs in it. -/
structure Machine where
  /-- The world. -/
  world : World
  /-- The shell. -/
  state : State
  /-- The commands that were not waited for. -/
  tasks : List Task

/-- Why an action does not go on. -/
inductive Halt where
  /-- The shell was told to end. -/
  | exited
  /-- The shell ends because of how a command ended. -/
  | ended
  /-- Something cannot be done. -/
  | failed
  /-- The process has ended. -/
  | gone (ending : ExitStatus)
  /-- So many loops are left. -/
  | breaking (count : Nat)
  /-- All but one of so many loops are left, and that one goes on. -/
  | continuing (count : Nat)
  /-- A function or a script is left, perhaps with a status that was given. -/
  | returning (isGiven : Bool)
deriving DecidableEq, Repr

/-- Whether a halt is one that the flow of commands expects. -/
def Halt.isSkip : Halt → Bool
  | .breaking _ | .continuing _ | .returning _ => true
  | _ => false

/-- What a shell does. -/
abbrev ShellM := ExceptT Halt (StateM Machine)

/-- How a command is carried out. -/
structure Mode where
  /-- Whether it may fail without any further effect. -/
  isTested : Bool
  /-- Whether it is the last thing that the process does. -/
  isLast : Bool
deriving DecidableEq, Repr

namespace Mode

/-- Nothing in particular. -/
def plain : Mode := ⟨false, false⟩

/-- A command that may fail. -/
def tested : Mode := ⟨true, false⟩

/-- The same, with something still to be done. -/
def notLast (mode : Mode) : Mode := { mode with isLast := false }

end Mode

/-- What a shell is run by. -/
structure Runner where
  /-- What carries out commands. -/
  evaluate : Mode → Command → ShellM Unit
  /-- The programs. -/
  tools : Tools

namespace State

/-- The value of a variable. -/
def value? (state : State) (name : Octets) : Option Octets :=
  (state.bindings.lookup name).bind (·.value)

/-- Whether a setting is on. -/
def has (state : State) (letter : Char) : Bool :=
  state.settings.contains letter

/-- The state with a variable as it is given, or without it. -/
def withVariable (state : State) (name : Octets) (new? : Option Variable) : State :=
  let others := state.bindings.filter (·.1 ≠ name)
  match new? with
  | none => { state with bindings := others }
  | some new =>
    if (state.bindings.lookup name).isSome then
      { state with
        bindings := state.bindings.map fun (n, old) => (n, if n = name then new else old) }
    else { state with bindings := state.bindings ++ [(name, new)] }

/-- What is done about a signal, if a script is. -/
def trap? (state : State) (signal : Nat) : Option Octets :=
  (state.traps.lookup signal).filter (· ≠ "")

/-- Whether a signal does nothing. -/
def ignores (state : State) (signal : Nat) : Bool :=
  state.process.ignored.contains signal || state.traps.lookup signal = some ""

/-- Whether there is a script for some signal or for the end. -/
def hasTraps (state : State) : Bool :=
  state.traps.any fun trap => trap.2 ≠ ""

/-- The variables that programs get. -/
def environment (state : State) : List (Octets × Octets) :=
  state.bindings.filterMap fun (name, var) =>
    if var.isExported then var.value.map (name, ·) else none

/-- The separators of fields. -/
def separators (state : State) : List Char :=
  ((state.value? "IFS").getD " \t\n").toList

end State

namespace ShellM

/-- The state of the shell. -/
def state : ShellM State := do
  return (← get).state

/-- Changes the state of the shell. -/
def modifyState (change : State → State) : ShellM Unit :=
  modify fun machine => { machine with state := change machine.state }

/-- Sets how the last command ended. -/
def setStatus (status : Nat) : ShellM Unit :=
  modifyState fun state => { state with status }

/-- Does a job in the process of the shell. -/
def perform {α : Type} (job : Job α) : ShellM α := do
  let machine ← get
  let (a, world) := (job.run machine.state.process).run machine.world
  set { machine with world }
  return a

/-- The files as the shell names them. -/
def workspace : ShellM Workspace :=
  perform Job.workspace

/-! ### Complaints -/

/-- A complaint, behind the name of the shell, the line and the command. -/
def warn (complaint : Octets) : ShellM Unit := do
  let state ← state
  let caller := (state.caller.map (· ++ ": ")).getD ""
  perform (Job.complain (state.name ++ ": " ++ toString state.line ++ ": " ++ caller ++ complaint))

/-! ### Output -/

/-- Prints something; it is written when the command ends. -/
def print (s : Octets) : ShellM Unit :=
  modifyState fun state => { state with printed := s :: state.printed }

/-- Prints a line. -/
def printLine (s : Octets) : ShellM Unit :=
  print (s ++ "\n")

/-- Writes what has been printed and says whether that was possible. Where nobody reads it, the
signal for that ends the process, unless something else is done about it. -/
def flush : ShellM Bool := do
  let text := String.join (← state).printed.reverse
  modifyState fun state => { state with printed := [] }
  if text = "" then return true
  else
    match ← perform (Job.write 1 (Octets.bytes text)) with
    | .ok () => return true
    | .error error =>
      let state ← state
      if error = .brokenPipe then
        if (state.trap? pipeSignal).isSome then
          modifyState fun state => { state with pending := pipeSignal :: state.pending }
        else unless state.ignores pipeSignal do throw (.gone (.signal pipeSignal false))
      return false

/-- Fails, with a complaint. What has been printed is written behind it. -/
def fail {α : Type} (complaint : Octets) : ShellM α := do
  warn complaint
  let _ ← flush
  setStatus 2
  throw .failed

/-! ### Variables -/

/-- The value of a variable. -/
def value? (name : Octets) : ShellM (Option Octets) := do
  return (← state).value? name

/-- Fails if a variable keeps its value. -/
def demandWritable (name : Octets) : ShellM Unit := do
  if ((← state).bindings.lookup name).any (·.isReadOnly) then fail (name ++ ": is read only")

/-- Changes a variable, which may be new. -/
def modifyVariable (name : Octets) (change : Variable → Variable) : ShellM Unit :=
  modifyState fun state =>
    let old := (state.bindings.lookup name).getD ⟨none, false, false⟩
    state.withVariable name (some (change old))

/-- Fails if a word is not the name of a variable. -/
def demandName (name : Octets) : ShellM Unit := do
  unless isName name do fail (name ++ ": bad variable name")

/-- Sets a variable, whatever its name. -/
def storeVariable (name value : Octets) : ShellM Unit := do
  demandWritable name
  let isExported := (← state).has 'a'
  modifyVariable name fun old =>
    { old with value := some value, isExported := old.isExported || isExported }
  if name = "OPTIND" then modifyState fun state => { state with optionLetters := [] }
  if name = "PATH" then modifyState fun state => { state with found := [] }

/-- Sets a variable. -/
def setVariable (name value : Octets) : ShellM Unit := do
  demandName name
  storeVariable name value

/-- Makes a variable local to the call that was opened last, if it is not yet. -/
def makeLocal (name : Octets) : ShellM Unit :=
  modifyState fun state =>
    match state.scopes with
    | [] => state
    | scope :: scopes =>
      if (scope.outer.lookup name).isSome then state
      else
        let outer := (name, state.bindings.lookup name) :: scope.outer
        { state with scopes := { scope with outer } :: scopes }

/-- Makes the settings local to the call that was opened last, if they are not yet. -/
def makeSettingsLocal : ShellM Unit :=
  modifyState fun state =>
    match state.scopes with
    | [] => state
    | scope :: scopes =>
      let outerSettings? := scope.outerSettings? <|> some state.settings
      { state with scopes := { scope with outerSettings? } :: scopes }

/-- Closes the calls that were opened last, down to a number of them: what was local to them is as
it was outside. A variable that was not there outside cannot go if its name is none. -/
def closeScopes (count : Nat) : ShellM Unit := do
  let scopes := (← state).scopes
  (scopes.take (scopes.length - count)).forM fun scope => do
    modifyState fun state =>
      { state with
        scopes := state.scopes.tail
        settings := scope.outerSettings?.getD state.settings }
    scope.outer.forM fun (name, outer?) => do
      if outer?.isNone then demandName name
      modifyState (·.withVariable name outer?)

/-- Does something as a call with local variables. Where the shell ends in it, they stay. -/
def inScope (action : ShellM Unit) : ShellM Unit := do
  let count := (← state).scopes.length
  modifyState fun state => { state with scopes := ⟨[], none⟩ :: state.scopes }
  try action
  catch halt =>
    if halt.isSkip then closeScopes count
    throw halt
  closeScopes count

/-! ### Halts -/

/-- Does something whatever happens, and then something more. -/
def ensuring {α : Type} (action : ShellM α) (cleanup : ShellM Unit) : ShellM α := do
  try
    let a ← action
    cleanup
    return a
  catch halt =>
    cleanup
    throw halt

end ShellM

end Shell

end Toolbox

end SnapshotSuite
