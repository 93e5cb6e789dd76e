import SnapshotSuite.Toolbox.Shell.Builtin.Basic
import SnapshotSuite.Toolbox.Shell.Launching
/-!
# The working directory
-/

namespace SnapshotSuite

namespace Toolbox

namespace Shell

open ShellM

namespace Builtin

/-- Prints the working directory. -/
def pwd : Behavior := fun _ _ _ words => do
  let _ ← readOptions [('L', false), ('P', false)] words
  printLine (← state).process.directoryPath
  return 0

/-- Moves to the directory at a path, and says whether there is one. -/
def move (path : Octets) : ShellM Bool := do
  let w ← workspace
  match w.locate (Octets.text path) with
  | .ok place =>
    if w.tree.at? place = some .directory then
      let before := (← state).process
      modifyVariable "OLDPWD" fun var =>
        { var with value := some before.directoryPath, isExported := true }
      let after := { before with directory := place }
      modifyVariable "PWD" fun var =>
        { var with value := some after.directoryPath, isExported := true }
      modifyState fun state => { state with process := after }
      return true
    else return false
  | .error _ => return false

/-- The paths at which a directory is looked for, each with whether it is shown. -/
def destinations (state : State) (path : Octets) : List (Octets × Bool) :=
  let isFixed := ["/".toList, "./".toList, "../".toList].any (·.isPrefixOf path.toList) ||
    path = "." || path = ".."
  if isFixed then [(path, false)]
  else
    let bases := splitAtChar ':' ((state.value? "CDPATH").getD "")
    bases.map (fun base => if base = "" then (path, false) else (base ++ "/" ++ path, true)) ++
      [(path, false)]

/-- Moves to the first of some directories that there is. -/
def moveToFirst (shows : Bool) : List (Octets × Bool) → ShellM Bool
  | [] => return false
  | (path, isShown) :: rest => do
    if ← move path then
      if shows ∨ isShown then printLine (← state).process.directoryPath
      return true
    else moveToFirst shows rest

/-- Changes the working directory. -/
def cd : Behavior := fun _ _ _ words => do
  let arguments ← readOptions [('L', false), ('P', false)] words
  let state ← state
  let (path, shows) :=
    match arguments.operands with
    | [] => ((state.value? "HOME").getD "", false)
    | "-" :: _ => ((state.value? "OLDPWD").getD "", true)
    | path :: _ => (path, false)
  let path := if path = "" then "." else path
  unless ← moveToFirst shows (destinations state path) do
    fail ("can\x27t cd to " ++ path)
  return 0

end Builtin

end Shell

end Toolbox

end SnapshotSuite
