import SnapshotSuite.Toolbox.Shell.Expansion
/-!
# Carrying out redirections

The words of all redirections are expanded before the first file is opened. A redirection that fails
takes those before it back.
-/

namespace SnapshotSuite

namespace Toolbox

namespace Shell

open ShellM

/-- Where a descriptor is to lead. -/
inductive Target where
  /-- To a file. -/
  | file (opening : Opening) (path : Octets)
  /-- To where another descriptor leads. -/
  | descriptor (number : Nat)
  /-- Nowhere: it is closed. -/
  | nowhere
  /-- To a document. -/
  | document (word : Word)

/-- Fails because a word names no descriptor, where the script has been read to. -/
def failOnDescriptor {α : Type} : ShellM α := do
  modifyState fun state => { state with line := state.lineRead }
  fail "Syntax error: Bad fd number"

/-- A redirection with its word expanded: a descriptor, and where it is to lead. -/
def expandRedirection (runner : Runner) : Redirection → ShellM (Nat × Target)
  | .file descriptor opening path => do
    return (descriptor, .file opening (← expandText runner path))
  | .duplicate descriptor source => do
    match (← expandText runner source).toList with
    | ['-'] => return (descriptor, .nowhere)
    | [c] =>
      if c.isDigit then return (descriptor, .descriptor (c.toNat - 48))
      else failOnDescriptor
    | _ => failOnDescriptor
  | .document descriptor index => do
    return (descriptor, .document (((← state).documents[index]?).getD []))

/-- What a file is opened for. -/
def purposeOf (isProtected : Bool) : Opening → Purpose
  | .read => .reading
  | .write => if isProtected then .creating else .writing
  | .force => .writing
  | .append => .appending
  | .both => .both

/-- The complaint about a file that cannot be opened. What stands there is not created. -/
def openingFault (purpose : Purpose) (path : Octets) (error : SystemError) : Octets :=
  let words :=
    if !error.isAbsence then error.words
    else if purpose = .reading then "No such file"
    else "Directory nonexistent"
  let isOpened := purpose = .reading ∨ purpose = .creating ∧ error = .access .isDirectory
  "cannot " ++ (if isOpened then "open " else "create ") ++ path ++ ": " ++ words

/-- Makes a redirection. -/
def redirectTo (runner : Runner) (descriptor : Nat) (target : Target) : ShellM Unit := do
  match target with
  | .file opening path =>
    let purpose := purposeOf ((← state).has 'C') opening
    let process := (← state).process
    match ← perform (Job.attempt fun world => world.openPath process purpose path) with
    | .ok index => connect descriptor (some index)
    | .error error => fail (openingFault purpose path error)
  | .descriptor source =>
    match (← state).process.descriptors.lookup source with
    | some index => connect descriptor (some index)
    | none =>
      unless source = descriptor do fail (toString source ++ ": Bad file descriptor")
  | .nowhere => connect descriptor none
  | .document word =>
    let text ← expandDocument runner word
    connect descriptor (some (← newSource (Octets.bytes text)))

/-- Makes redirections and says whether that was possible. -/
def redirect (runner : Runner) (redirections : List Redirection) : ShellM Bool := do
  let targets ← redirections.mapM (expandRedirection runner)
  let process := (← state).process
  try
    targets.forM fun (descriptor, target) => redirectTo runner descriptor target
    return true
  catch halt =>
    modifyState fun state => { state with process }
    if halt = .failed then return false else throw halt

/-- Lets the descriptors of redirections lead where they led in a process before. -/
def restoreDescriptors (before : Process) (redirections : List Redirection) : ShellM Unit :=
  redirections.forM fun redirection =>
    connect redirection.descriptor (before.descriptors.lookup redirection.descriptor)

/-- Does something and then lets the descriptors of redirections lead where they led before. -/
def restoring {α : Type} (redirections : List Redirection) (action : ShellM α) : ShellM α := do
  let before := (← state).process
  ensuring action (restoreDescriptors before redirections)

end Shell

end Toolbox

end SnapshotSuite
