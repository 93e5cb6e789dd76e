import SnapshotSuite.Compiler.Failure
import SnapshotSuite.Toolbox.World
/-!
# What tools do

A job is something that a process does to the world. A tool makes a job of the words that it is
called with, and says how it ends.
-/

namespace SnapshotSuite

namespace Toolbox

/-- Something that a process does. -/
abbrev Job := ReaderT Process (StateM World)

/-- A program: what it does, called by some name with some words, and how it ends. -/
abbrev Tool := (name : Octets) → (words : List Octets) → Job ExitStatus

namespace Job

/-- The files as the process names them. -/
def workspace : Job Workspace := do
  return (← read).workspace (← get)

/-- Does what may fail, and leaves the world alone if it does. -/
def attempt {α : Type} (call : World → Except SystemError (α × World)) :
    Job (Except SystemError α) := do
  match call (← get) with
  | .error error => return .error error
  | .ok (a, world) =>
    set world
    return .ok a

/-- Writes bytes to a descriptor. -/
def write (descriptor : Nat) (bs : Bytes) : Job (Except SystemError Unit) := do
  match (← read).descriptors.lookup descriptor with
  | none => return .error .badDescriptor
  | some index =>
    let result ← attempt fun world => (world.append index bs).map ((), ·)
    if let .error .brokenPipe := result then modify (·.breaking index)
    return result

/-- The open file to which a descriptor leads. -/
def openFile? (descriptor : Nat) : Job (Option OpenFile) := do
  let world ← get
  return ((← read).descriptors.lookup descriptor).bind fun index => world.files[index]?

/-- Reads from a descriptor what `share` takes of all there is. -/
def readShare (descriptor : Nat) (share : Bytes → Nat) : Job (Except SystemError Bytes) := do
  match (← read).descriptors.lookup descriptor with
  | none => return .error .badDescriptor
  | some index => attempt (·.consume index share)

/-- Reads from a descriptor all there is. -/
def readAll (descriptor : Nat) : Job (Except SystemError Bytes) :=
  readShare descriptor List.length

/-- Does a job on the open file of a path, or on standard input if the path is a dash. -/
def withInput {α : Type} (path : Octets) (job : Nat → Job (Except SystemError α)) :
    Job (Except SystemError α) := do
  if path = "-" then
    match (← read).descriptors.lookup 0 with
    | none => return .error .badDescriptor
    | some index => job index
  else
    match ← attempt (·.openPath (← read) .reading path) with
    | .error error => return .error error
    | .ok index => job index

/-- The content of the file at a path, or what standard input has, if the path is a dash. -/
def load (path : Octets) : Job (Except SystemError Bytes) :=
  withInput path fun index => attempt (·.consume index List.length)

/-- Stops reading the file at a path in front of bytes that have been read ahead. Only for standard
input that makes a difference. -/
def stopReading (path : Octets) (isExact : Bool) (ahead : Bytes) : Job Unit := do
  if path = "-" then
    ((← read).descriptors.lookup 0).forM fun index => modify (·.stopReading index isExact ahead)

/-- Fills the file at a path. -/
def store (path : Octets) (purpose : Purpose) (bs : Bytes) : Job (Except SystemError Unit) := do
  match ← attempt (·.openPath (← read) purpose path) with
  | .error error => return .error error
  | .ok index => attempt fun world => (world.append index bs).map ((), ·)

/-- Prints bytes. -/
def printBytes (bs : Bytes) : Job Unit := do
  if bs ≠ [] then
    if let .error error := ← write 1 bs then
      modify fun world => { world with loss? := world.loss? <|> some error }

/-- Prints octets. -/
def print (s : Octets) : Job Unit :=
  printBytes (Octets.bytes s)

/-- Prints a line. -/
def printLine (s : Octets) : Job Unit :=
  print (s ++ "\n")

/-- Writes a line to the descriptor for complaints. -/
def complain (line : Octets) : Job Unit := do
  let _ ← write 2 (Octets.bytes (line ++ "\n"))

/-- Changes the tree. -/
def modifyTree (change : Tree → Tree) : Job Unit :=
  modify fun world => { world with tree := change world.tree }

end Job

/-- The end of a tool that says whether it succeeded. -/
def endingWith (isSuccess : Bool) : ExitStatus :=
  .code (if isSuccess then 0 else 1)

/-- The signal for a process that writes what nobody reads. -/
def pipeSignal : Nat := 13

/-- A tool that fails if something that it prints cannot be written, or is ended by the signal for
that. -/
def checkingOutput (tool : Tool) : Tool := fun name words => do
  modify fun world => { world with loss? := none }
  let status ← tool name words
  match (← get).loss? with
  | none => return status
  | some error =>
    modify fun world => { world with loss? := none }
    if error = .brokenPipe ∧ !(← read).ignored.contains pipeSignal then
      return .signal pipeSignal false
    else
      Job.complain (name ++ ": write error: " ++ error.words)
      return .code 1

/-- A tool that complains and fails. -/
def complaining (code : Nat) (line : Octets) : Job ExitStatus := do
  Job.complain line
  return .code code

end Toolbox

end SnapshotSuite
