import SnapshotSuite.Toolbox.Shell.Grammar
import SnapshotSuite.Toolbox.Shell.State
/-!
# Processes of a shell

Scripts are carried out line by line. A shell ends with the script that is set for its end; signals
that have come are answered between commands. A command in a process of its own works on a copy of
the state, so that only the world remembers it.
-/

namespace SnapshotSuite

namespace Toolbox

namespace Shell

open ShellM

/-! ### Scripts -/

/-- Carries out lines and says whether there was a command in one; `fuel` bounds their number. Lines
are shown before they are carried out if `isShown` says so. -/
def runLines (runner : Runner) (mode : Mode) (isShown : Bool) :
    (fuel : Nat) → (hasRun : Bool) → Source → ShellM Bool
  | 0, hasRun, _ => return hasRun
  | fuel + 1, hasRun, source => do
    let before ← state
    let source := { source with documents := before.documents, aliases := before.aliases }
    match Reader.line?.run source with
    | .error fault =>
      modifyState fun state => { state with line := fault.line }
      fail ("Syntax error: " ++ fault.complaint)
    | .ok (none, _) => return hasRun
    | .ok (some command, rest) =>
      modifyState fun state => { state with documents := rest.documents, lineRead := rest.line }
      if isShown ∧ before.has 'v' then
        let text := source.rest.take (source.rest.length - rest.rest.length)
        perform (discard (Job.write 2 (Octets.bytesOfChars text)))
      runner.evaluate mode command
      runLines runner mode isShown fuel (hasRun || !command.isNothing) rest

/-- Carries out a script from its start and says whether there was a command in it. -/
def runSource (runner : Runner) (mode : Mode) (isShown : Bool) (cs : List Char) :
    ShellM Bool := do
  let lineRead := (← state).lineRead
  ensuring (runLines runner mode isShown (cs.length + 2) false (Source.ofText cs #[] []))
    (modifyState fun state => { state with lineRead })

/-- Carries out a text as a script and says whether there was a command in it. -/
def runText (runner : Runner) (mode : Mode) (text : Octets) : ShellM Bool :=
  runSource runner mode false text.toList

/-! ### Signals -/

/-- What a process does when a signal comes. -/
def arrive (signal : Nat) : ShellM Unit := do
  let state ← state
  let deadly : ShellM Unit := throw (.gone (.signal signal false))
  if Signal.isSure signal then deadly
  else if state.ignores signal then pure ()
  else if (state.trap? signal).isSome then
    let pending := (signal :: state.pending).eraseDups.mergeSort
    modifyState fun state => { state with pending }
  else unless Signal.isHarmless signal do deadly

/-- Lets the signals come that have been sent to the process. -/
def receive : ShellM Unit := do
  let machine ← get
  let (own, others) :=
    machine.world.signals.partition (·.1 = machine.state.process.number)
  set { machine with world := { machine.world with signals := others } }
  own.forM fun (_, signal) => arrive signal

/-- Carries out the scripts for the signals that have come. The status is then what it was. -/
def runTraps (runner : Runner) : ShellM Unit := do
  let before ← state
  if before.pending ≠ [] then
    let status := before.finalStatus.getD before.status
    let restore : ShellM Unit :=
      modifyState fun state => { state with finalStatus := before.finalStatus }
    modifyState fun state => { state with pending := [], finalStatus := some status }
    try
      before.pending.forM fun signal => do
        if let some text := (← state).trap? signal then
          discard (runText runner .plain text)
          setStatus status
      restore
    catch halt =>
      if halt.isSkip then
        unless halt = .returning true do setStatus status
        restore
      throw halt

/-! ### The end of a process -/

/-- Takes note of a halt at which the process ends. -/
def settle (halt : Halt) : ShellM Unit := do
  match halt with
  | .gone _ => throw halt
  | .exited =>
    modifyState fun state =>
      { state with status := state.finalStatus.getD state.status, finalStatus := none }
  | _ => pure ()

/-- Carries out the script that is set for the end. -/
def runLast (runner : Runner) : ShellM Unit := do
  let before ← state
  if let some text := before.trap? 0 then
    modifyState fun state =>
      { state with
        traps := state.traps.filter (·.1 ≠ 0)
        finalStatus := some before.status }
    try
      discard (runText runner .plain text)
      setStatus before.status
    catch halt =>
      if halt.isSkip then setStatus before.status else settle halt

/-- Does something as all that the process does, and says how the process ends. -/
def conclude (runner : Runner) (action : ShellM Unit) : ShellM ExitStatus := do
  try
    try action
    catch halt => settle halt
    runLast runner
    return .code ((← state).status % 256)
  catch halt =>
    match halt with
    | .gone ending => return ending
    | _ => return .code ((← state).status % 256)

/-! ### Tasks -/

/-- The state of a new process: scripts for signals are not kept. -/
def childState : ShellM State := do
  let machine ← get
  let state := machine.state
  let number := machine.world.lastProcess + 1
  set { machine with world := { machine.world with lastProcess := number } }
  return { state with
    process := { state.process with number, parent := state.process.number }
    traps := state.traps.filter (·.2 = "")
    pending := [] }

/-- Does something in another state and keeps the own one. -/
def within {α : Type} (other : State) (action : ShellM α) : ShellM α := do
  let own ← state
  modifyState fun _ => other
  ensuring action (modifyState fun _ => own)

/-- Lets the signal come that tells of the end of a process, if there is a script for it. -/
def noteChild : ShellM Unit := do
  if ((← state).trap? Signal.childSignal).isSome then arrive Signal.childSignal

/-- Carries out a task and takes over the tasks that it leaves. -/
def runTask (runner : Runner) (task : Task) : ShellM Unit := do
  let ending ← within task.state (conclude runner (runner.evaluate ⟨false, true⟩ task.command))
  modify fun machine =>
    { machine with
      tasks := machine.tasks.map fun other =>
        if other.number = task.number then { other with ending := some ending }
        else if other.owner = task.number then { other with owner := task.owner }
        else other }
  noteChild

/-- Carries out all tasks of the process; `fuel` bounds their number. -/
def runTasksWithin (runner : Runner) : (fuel : Nat) → ShellM Unit
  | 0 => pure ()
  | fuel + 1 => do
    let machine ← get
    let own := machine.state.process.number
    if let some task := machine.tasks.find? fun task => task.owner = own && task.ending.isNone then
      runTask runner task
      runTasksWithin runner fuel

/-- The greatest number of tasks that are carried out at once. -/
def maxTasks : Nat := 4096

/-- Carries out all tasks of the process. -/
def runTasks (runner : Runner) : ShellM Unit :=
  runTasksWithin runner maxTasks

/-- The tasks of the shell, in the order in which they were put off. -/
def ownTasks : ShellM (List Task) := do
  let machine ← get
  return machine.tasks.filter (·.owner = machine.state.process.number)

/-- Forgets a task. -/
def dropTask (task : Task) : ShellM Unit :=
  modify fun machine =>
    { machine with tasks := machine.tasks.filter (·.number ≠ task.number) }

/-- The first place at which no task stands that is still needed. A task that stands there is
forgotten. -/
def takePlace : ShellM Nat := do
  let tasks ← ownTasks
  let isNeeded (place : Nat) : Bool :=
    tasks.any fun task => task.place = place && !(task.ending.isSome && task.isWaited)
  let place := ((List.range' 1 tasks.length).find? (!isNeeded ·)).getD (tasks.length + 1)
  (tasks.find? (·.place = place)).forM dropTask
  return place

/-- Puts a command off, to be carried out in a process that reads nothing. -/
def putOff (command : Command) : ShellM Unit := do
  let place ← takePlace
  let state ← childState
  let (index, world) := (← get).world.add ⟨.nothing, true, false, false⟩
  let process := state.process
  let descriptors := (0, index) :: process.descriptors.filter (·.1 ≠ 0)
  let process := { process with descriptors, ignored := [2, 3] ++ process.ignored }
  let task : Task :=
    ⟨process.number, process.parent, command, { state with process }, none, false, place,
      false⟩
  modify fun machine =>
    { machine with
      world
      tasks := machine.tasks ++ [task]
      state := { machine.state with background := some process.number } }

/-! ### Processes that are waited for -/

/-- The status by which a process is known. -/
def statusOf : ExitStatus → Nat
  | .code n => n
  | .signal n _ => 128 + n

/-- Tells that a signal has ended a process, if that is worth a word. -/
def report (ending : ExitStatus) : ShellM Unit := do
  if let .signal n _ := ending then
    unless n = 2 ∨ n = 13 do perform (Job.complain (Signal.words n))

/-- Takes note of the tasks that have ended, while another process was waited for. -/
def noteTasks : ShellM Unit :=
  modify fun machine =>
    { machine with
      tasks := machine.tasks.map fun task =>
        if task.owner = machine.state.process.number ∧ task.ending.isSome then
          { task with isNoted := true }
        else task }

/-- Takes note of a process that has ended. -/
def noteEnd (ending : ExitStatus) : ShellM Unit := do
  report ending
  noteTasks
  noteChild
  receive

/-- Does something in a process of its own and says how the process ends. -/
def fork (runner : Runner) (action : ShellM Unit) : ShellM ExitStatus := do
  let _ ← takePlace
  let ending ← within (← childState) do
    let ending ← conclude runner action
    runTasks runner
    return ending
  noteEnd ending
  return ending

/-- Changes where a descriptor leads. -/
def connect (descriptor : Nat) (index : Option Nat) : ShellM Unit :=
  modifyState fun state =>
    let others := state.process.descriptors.filter (·.1 ≠ descriptor)
    let descriptors := (index.map (descriptor, ·)).toList ++ others
    { state with process := { state.process with descriptors } }

/-- A new source of some bytes. -/
def newSource (bs : Bytes) : ShellM Nat := do
  let (index, world) := (← get).world.addSource bs
  modify fun machine => { machine with world }
  return index

/-- A new sink with some room. -/
def newSink (room : Room) : ShellM Nat := do
  let (index, world) := (← get).world.addSink room
  modify fun machine => { machine with world }
  return index

/-- What a command prints in a process of its own. -/
def capture (runner : Runner) (command : Command) : ShellM (List Char) := do
  if command.isNothing then return []
  else
    let index ← newSink .endless
    let ending ← fork runner do
      connect 1 (some index)
      runner.evaluate ⟨false, true⟩ command
    modifyState fun state => { state with outputStatus := statusOf ending }
    return Octets.charsOf ((← get).world.written index)

end Shell

end Toolbox

end SnapshotSuite
