import SnapshotSuite.Toolbox.Shell.Builtin.Basic
/-!
# Signals and tasks

Signals are sent to processes and answered by scripts. Tasks are waited for by the numbers of their
processes.
-/

namespace SnapshotSuite

namespace Toolbox

namespace Shell

open ShellM

namespace Builtin

/-- Sets what is done about signals, or shows it. -/
def trap : Behavior := fun _ _ _ words => do
  match ← operands words with
  | [] =>
    let traps := (← state).traps.mergeSort fun a b => a.1 ≤ b.1
    traps.forM fun (signal, text) =>
      printLine ("trap -- " ++ quoted text ++ " " ++ Signal.name signal)
    return 0
  | first :: rest =>
    let (action?, names) :=
      if rest = [] ∨ (isNumber first ∧ (Signal.ofWord? 0 first).isSome) then
        (none, first :: rest)
      else if first = "-" then (none, rest)
      else (some first, rest)
    set action? names
where
  /-- Sets what is done about some signals. -/
  set (action? : Option Octets) : List Octets → ShellM Nat
    | [] => return 0
    | name :: names => do
      match Signal.ofWord? 0 name with
      | none =>
        perform (Job.complain ("trap: " ++ name ++ ": bad trap"))
        return 1
      | some signal =>
        modifyState fun state =>
          let others := state.traps.filter (·.1 ≠ signal)
          { state with traps := (action?.map (signal, ·)).toList ++ others }
        set action? names

/-! ### Tasks -/

/-- Finds the task at a place that a word gives, or one that the word means in another way; `none`
is the last task. Fails if there is none. -/
def findTask (word? : Option Octets) : ShellM Task := do
  let tasks ← ownTasks
  let demand (task? : Option Task) (complaint : Octets) : ShellM Task :=
    match task? with
    | some task => return task
    | none => fail complaint
  let last := demand tasks.getLast? "No current job"
  match word? with
  | none => last
  | some word =>
    let named (task? : Option Task) : ShellM Task := demand task? ("No such job: " ++ word)
    match word.toList with
    | ['%'] | ['%', '+'] | ['%', '%'] => last
    | ['%', '-'] => demand tasks.dropLast.getLast? "No previous job"
    | ['%', '?'] => named (if tasks.length = 1 then tasks.head? else none)
    | '%' :: digits =>
      let place? :=
        if isNumber (String.ofList digits) then some (digitsValue digits) else none
      named (tasks.find? fun task => place? = some task.place)
    | _ => named none

/-- The words for the state of a task. -/
def taskWords (task : Task) : Octets :=
  match task.ending with
  | none => "Running"
  | some (.code 0) => "Done"
  | some (.code n) => "Done(" ++ toString n ++ ")"
  | some (.signal n _) => Signal.words n

/-- The numbers of the processes of a task but the last one, which are those of a pipe. -/
def otherProcesses : Command → Nat
  | .pipe commands => commands.length - 1
  | _ => 0

/-- Shows a task: its state, or the number of its process, or both. One that has ended is
forgotten. -/
def showTask (hasNumber isBrief : Bool) (task : Task) : ShellM Unit := do
  let tasks ← ownTasks
  if isBrief then printLine (toString task.number)
  else
    let isAt (other? : Option Task) : Bool := other?.any (·.number = task.number)
    let sign :=
      if isAt tasks.getLast? then "+" else if isAt tasks.dropLast.getLast? then "-" else " "
    let number := if hasNumber then toString task.number ++ " " else ""
    let text := "[" ++ toString task.place ++ "] " ++ sign ++ " " ++ number ++ taskWords task
    let others := String.join (List.replicate (otherProcesses task.command) " | ")
    printLine (text ++ String.ofList (List.replicate (33 - text.length) ' ') ++ others)
  if task.ending.isSome then dropTask task

/-- Shows tasks. -/
def jobs : Behavior := fun _ _ _ words => do
  let arguments ← readOptions [('l', false), ('p', false)] words
  let last := (arguments.options.getLast?).map (·.letter)
  let show_ := showTask (last = some 'l') (last = some 'p')
  if arguments.operands = [] then (← ownTasks).reverse.forM show_
  else arguments.operands.forM fun word => do show_ (← findTask (some word))
  return 0

/-- Finds a task that could be brought to the front, but no task can. -/
def bring : Behavior := fun _ _ _ words => do
  let word? := (← operands words).head?
  let _ ← findTask word?
  fail ("job " ++ word?.getD "(null)" ++ " not created under job control")

/-- The number of the process that a word names, if signals can be sent to it. -/
def processNumber (word : Octets) : ShellM (Option Nat) := do
  match word.toList with
  | '%' :: _ =>
    let _ ← findTask (some word)
    return none
  | '-' :: digits =>
    let _ ← number (String.ofList digits)
    return none
  | _ => return some (← number word)

/-! ### Sending signals -/

/-- How signals are sent. -/
def killUsage : Octets :=
  "Usage: kill [-s sigspec | -signum | -sigspec] [pid | job]... or\nkill -l [exitstatus]"

/-- Shows the name of a signal, or of the one by which a status came about. -/
def showSignal (word : Octets) : ShellM Unit := do
  let number ← number word
  let signal := if 128 < number then number - 128 else number
  if 0 < signal ∧ signal ≤ Signal.greatest then printLine (Signal.name signal)
  else fail ("invalid signal number or exit status: " ++ word)

/-- Shows the names of all signals. -/
def showSignals : ShellM Unit := do
  printLine "0"
  ((List.range Signal.greatest).map (· + 1)).forM fun signal => printLine (Signal.name signal)

/-- Lets a task get a signal before it has begun. -/
def signalTask (task : Task) (signal : Nat) : ShellM Unit := do
  let isDeadly := Signal.isSure signal ||
    !(signal = 0 || task.state.ignores signal || Signal.isHarmless signal)
  if isDeadly then
    modify fun machine =>
      { machine with
        tasks := machine.tasks.map fun other =>
          if other.number = task.number then { other with ending := some (.signal signal false) }
          else other }

/-- Sends a signal to a process, and says whether there is one. -/
def send (signal number : Nat) : ShellM Bool := do
  let machine ← get
  let process := machine.state.process
  match machine.tasks.find? fun task => task.number = number && task.ending.isNone with
  | some task =>
    signalTask task signal
    return true
  | none =>
    if [process.number, process.parent, machine.state.mainProcess].contains number then
      unless signal = 0 do
        let signals := machine.world.signals ++ [(number, signal)]
        modify fun machine => { machine with world := { machine.world with signals } }
        receive
      return true
    else return false

/-- Sends a signal to processes. -/
def sendAll (signal : Nat) : List Octets → (status : Nat) → ShellM Nat
  | [], status => return status
  | word :: words, status => do
    let isSent ←
      match ← processNumber word with
      | some number => send signal number
      | none => pure false
    if isSent then sendAll signal words status
    else
      warn "No such process\n"
      sendAll signal words 1

/-- The signal that is sent if none is named. -/
def defaultSignal : Nat := 15

/-- Sends signals to processes, or shows their names. -/
def kill : Behavior := fun _ _ _ words => do
  match words with
  | [] => fail killUsage
  | word :: rest =>
    let byName? :=
      match word.toList with
      | '-' :: name => Signal.ofWord? 1 (String.ofList name)
      | _ => none
    match byName? with
    | some signal => if rest = [] then fail killUsage else sendAll signal rest 0
    | none =>
      let arguments ← readOptions [('l', false), ('s', true)] words
      let signal? ←
        match arguments.value? 's' with
        | none => pure none
        | some name =>
          match Signal.ofWord? 1 name with
          | some signal => pure (some signal)
          | none => fail ("invalid signal number or name: " ++ name)
      match arguments.has 'l', arguments.operands with
      | true, operands =>
        if signal?.isSome then fail killUsage
        match operands with
        | [] => showSignals
        | word :: _ => showSignal word
        return 0
      | false, [] => fail killUsage
      | false, operands => sendAll (signal?.getD defaultSignal) operands 0

/-! ### Waiting -/

/-- Marks tasks that have been waited for. -/
def markWaited (isMarked : Task → Bool) : ShellM Unit :=
  modify fun machine =>
    { machine with
      tasks := machine.tasks.map fun task =>
        if isMarked task then { task with isWaited := true } else task }

/-- The status of the task that a word names, by its process or in another way. -/
def namedStatus? (word : Octets) : ShellM (Option Nat) := do
  let task? ←
    if word.toList.head? = some '%' then some <$> findTask (some word)
    else do
      let number ← number word
      pure ((← ownTasks).find? (·.number = number))
  match task? with
  | some ⟨number, _, _, _, some ending, isNoted, _, _⟩ =>
    unless isNoted do report ending
    noteTasks
    markWaited (·.number = number)
    return some (statusOf ending)
  | _ => return none

/-- Waits for tasks. The status is that of the last one that is known. -/
def wait : Behavior := fun runner _ _ words => do
  let words ← operands words
  runTasks runner
  if words = [] then
    noteTasks
    let own := (← state).process.number
    markWaited (·.owner = own)
  receive
  let first := if words = [] then 0 else missingStatus
  words.foldlM (fun status word => return (← namedStatus? word).getD status) first
where
  /-- The status of a task that there is not. -/
  missingStatus : Nat := 127

end Builtin

end Shell

end Toolbox

end SnapshotSuite
