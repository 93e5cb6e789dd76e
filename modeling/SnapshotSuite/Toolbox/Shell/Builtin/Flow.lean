import SnapshotSuite.Toolbox.Shell.Builtin.Basic
import SnapshotSuite.Toolbox.Shell.Launching
/-!
# The flow of commands

Loops, functions and shells are left; texts and files are carried out as scripts; a program takes
the place of the shell.
-/

namespace SnapshotSuite

namespace Toolbox

namespace Shell

open ShellM

namespace Builtin

/-- Succeeds. -/
def succeed : Behavior := fun _ _ _ _ => return 0

/-- Fails. -/
def refuse : Behavior := fun _ _ _ _ => return 1

/-- Leaves loops, as many as a word says and there are; or all but the last one of them. -/
def leaveLoops (halt : Nat → Halt) : Behavior := fun _ _ _ words => do
  let count ← numberOr 1 words
  if count = 0 then fail ("Illegal number: " ++ words.headD "")
  let depth := (← state).loops
  setStatus 0
  if depth = 0 then return 0 else throw (halt (min count depth))

/-- Leaves a function or a script. -/
def leave : Behavior := fun _ _ _ words => do
  let status ← numberOr (← state).status words
  setStatus status
  throw (.returning (words ≠ []))

/-- Ends the shell. -/
def exit : Behavior := fun _ _ _ words => do
  if words ≠ [] then
    let status ← numberOr 0 words
    modifyState fun state => { state with finalStatus := some status }
  throw .exited

/-- Carries out words as a script. -/
def eval : Behavior := fun runner mode _ words => do
  let hasRun ← runText runner mode.notLast (" ".intercalate words)
  let status := (← state).status
  return if hasRun then status else 0

/-- The path of a script: looked for in the directories for programs, unless it has a slash. -/
def scriptPath (name : Octets) : ShellM Octets := do
  if name.toList.contains '/' then return name
  else
    let w ← workspace
    let paths := (← state).directories.map fun directory =>
      if directory = "" then name else directory ++ "/" ++ name
    match paths.find? fun path => w.isFile (Octets.text path) with
    | some path => return path
    | none => fail (name ++ ": not found")

/-- The content of a script. -/
def loadScript (path : Octets) : ShellM (List Char) := do
  let process := (← state).process
  let index ←
    match ← perform (Job.attempt fun world => world.openPath process .reading path) with
    | .ok index => pure index
    | .error error => fail (openingFault .reading path error)
  match ← perform (Job.attempt (·.consume index List.length)) with
  | .ok bs => return (Octets.charsOf bs).filter (· ≠ '\x00')
  | .error _ => return []

/-- Carries out a file as a script. -/
def runFile : Behavior := fun runner _ _ words => do
  match ← operands words with
  | [] => return 0
  | name :: _ =>
    let path ← scriptPath name
    let cs ← loadScript path
    let caller := (← state).caller
    modifyState fun state => { state with caller := some path }
    let cleanup := modifyState fun state => { state with caller }
    ensuring (do
      try
        let hasRun ← runSource runner .plain true cs
        let status := (← state).status
        return if hasRun then status else 0
      catch halt =>
        match halt with
        | .returning _ => return (← state).status
        | halt => throw halt) cleanup

/-- Lets a program take the place of the shell, if there is one. -/
def exec : Behavior := fun runner _ _ words => do
  match words with
  | [] => return 0
  | name :: words =>
    let machine ← get
    let state := machine.state
    let tool : Except SystemError Tool := do
      let path ←
        if name.toList.contains '/' then pure name
        else runner.tools.search machine.world state.process state.directories name
      runner.tools.ofScript machine.world state.process path
    match tool with
    | .ok tool =>
      becomeTool tool name words
      return 0
    | .error error =>
      warn (name ++ ": " ++ startFault error)
      setStatus (startStatus error)
      throw .ended

end Builtin

end Shell

end Toolbox

end SnapshotSuite
