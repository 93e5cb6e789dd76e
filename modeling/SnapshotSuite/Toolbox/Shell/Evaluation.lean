import SnapshotSuite.Toolbox.Shell.Calling
/-!
# Carrying out commands

One step carries out a command by means of whatever carries out the commands inside it. A setting
lets the shell end where a call, a pipe or a process of its own fails, unless it was tested.
-/

namespace SnapshotSuite

namespace Toolbox

namespace Shell

open ShellM

/-- The greatest number of rounds that a loop goes. -/
def maxRounds : Nat := 10000000

/-- How a round of a loop ends. -/
inductive Round where
  /-- As it should. -/
  | whole
  /-- Early; the loop goes on. -/
  | early
  /-- With the loop. -/
  | last
deriving DecidableEq, Repr

/-- Does a part of a round. Halts that leave outer loops go on behind the loop. -/
def inRound (action : ShellM Unit) : ShellM Round := do
  try
    action
    return .whole
  catch halt =>
    match halt with
    | .breaking 0 | .breaking 1 => return .last
    | .breaking (n + 2) => throw (.breaking (n + 1))
    | .continuing 0 | .continuing 1 => return .early
    | .continuing (n + 2) => throw (.continuing (n + 1))
    | halt => throw halt

/-- Does something as a loop. -/
def asLoop (action : ShellM Unit) : ShellM Unit := do
  modifyState fun state => { state with loops := state.loops + 1 }
  ensuring action (modifyState fun state => { state with loops := state.loops - 1 })

/-- Carries out a body for as long as a condition holds, or until it does; the status is that of
the last body. `fuel` bounds the number of rounds. -/
def repeatWhile (runner : Runner) (mode : Mode) (isUntil : Bool) (condition body : Command) :
    (fuel : Nat) → (status : Nat) → ShellM Unit
  | 0, status => setStatus status
  | fuel + 1, status => do
    match ← inRound (runner.evaluate .tested condition) with
    | .last => setStatus status
    | .early => repeatWhile runner mode isUntil condition body fuel status
    | .whole =>
      if ((← state).status = 0) = isUntil then setStatus status
      else
        let round ← inRound (runner.evaluate mode body)
        let status := (← state).status
        if round = .last then setStatus status
        else repeatWhile runner mode isUntil condition body fuel status

/-- Carries out a body for each of some values of a variable. -/
def repeatEach (runner : Runner) (mode : Mode) (name : Octets) (body : Command) :
    List Octets → ShellM Unit
  | [] => pure ()
  | value :: values => do
    setVariable name value
    let round ← inRound (runner.evaluate mode body)
    unless round = .last do repeatEach runner mode name body values

/-- The command of the first arm with a pattern that matches a text. -/
def matchingArm (runner : Runner) (text : List Char) : List Arm → ShellM (Option Command)
  | [] => return none
  | .mk patterns body :: arms => do
    let isMatching ← patterns.foldlM (fun found pattern => do
      if found then return true else return isMatch (← expandPattern runner pattern) text) false
    if isMatching then return some body else matchingArm runner text arms

/-! ### Pipes -/

/-- How much a command may write into a pipe before the next one has read it, and how much it may
write when the next one turns out to read more than that. -/
def pipeRooms : List Nat :=
  [0x10000, 0x100000, 0x1000000]

/-- Runs one command of a pipe, in a process of its own. -/
def runStage (runner : Runner) (mode : Mode) (input output : Option Nat) (command : Command) :
    ShellM Unit := do
  let ending ← fork runner do
    if input.isSome then connect 0 input
    if output.isSome then connect 1 output
    runner.evaluate ⟨mode.isTested, true⟩ command
  setStatus (statusOf ending)

/-- Whether there is an input of which more may have been wanted. -/
def isWanting (input : Option Nat) : ShellM Bool := do
  let world := (← get).world
  return input.any world.isWanting

/-- Runs a command whose output the rest of a pipe reads. If it writes more than there is room for,
it does not go on; if then the rest wants more than there is, both begin again with the next room.
The same holds for an input that is not whole: says whether more of it was wanted in the end. -/
def runInRooms (runner : Runner) (mode : Mode) (isWhole : Bool) (input : Option Nat)
    (command : Command) (runRest : (isWhole : Bool) → (input : Option Nat) → ShellM Bool) :
    List Nat → ShellM Bool
  | [] => return false
  | room :: rooms => do
    let before ← get
    let output ← newSink (.bytes room)
    runStage runner mode input (some output) command
    let world := (← get).world
    let isBroken := world.isBroken output
    let isShort := !isWhole && (← isWanting input)
    let source ← newSource (world.written output)
    if !(← runRest (!isBroken && !isShort) (some source)) then return false
    else if !isBroken then return true
    else if rooms = [] then return false
    else
      set before
      runInRooms runner mode isWhole input command runRest rooms

/-- Runs commands of which each reads what the one before it prints, and says whether more input was
wanted, if the input is not whole. -/
def runStages (runner : Runner) (mode : Mode) :
    (isWhole : Bool) → (input : Option Nat) → List Command → ShellM Bool
  | _, _, [] => return false
  | isWhole, input, [command] => do
    runStage runner mode input none command
    return !isWhole && (← isWanting input)
  | isWhole, input, command :: commands =>
    runInRooms runner mode isWhole input command
      (fun isWhole input => runStages runner mode isWhole input commands) pipeRooms

/-- Runs commands of which each reads what the one before it prints. -/
def runPipe (runner : Runner) (mode : Mode) (commands : List Command) : ShellM Unit :=
  discard (runStages runner mode true none commands)

/-! ### Commands -/

/-- Carries out a command in a process of its own, unless it is the last one. -/
def runSubshell (runner : Runner) (mode : Mode) (command : Command)
    (redirections : List Redirection) : ShellM Unit := do
  let targets ← redirections.mapM (expandRedirection runner)
  let inside : ShellM Unit := do
    targets.forM fun (descriptor, target) => redirectTo runner descriptor target
    runner.evaluate ⟨mode.isTested, true⟩ command
  if mode.isLast ∧ !(← state).hasTraps then inside
  else setStatus (statusOf (← fork runner inside))

/-- Sets the line that complaints come from. -/
def atLine (line : Nat) : ShellM Unit :=
  modifyState fun state => { state with line }

/-- Does something whose failure ends the shell, if a setting says so and it is not tested. -/
def checked (mode : Mode) (action : ShellM Unit) : ShellM Unit := do
  let isChecked := (← state).has 'e' && !mode.isTested
  action
  if isChecked ∧ (← state).status ≠ 0 then throw .ended

/-- Carries out a command, signals aside. -/
def runCommand (runner : Runner) (mode : Mode) : Command → ShellM Unit
  | .nothing => pure ()
  | .simple line assignments words redirections =>
    checked mode (runCall runner mode line assignments words redirections)
  | .pipe commands => checked mode (runPipe runner mode commands)
  | .sequence first second => do
    runner.evaluate mode.notLast first
    runner.evaluate mode second
  | .and first second => do
    runner.evaluate .tested first
    if (← state).status = 0 then runner.evaluate mode second
  | .or first second => do
    runner.evaluate .tested first
    if (← state).status ≠ 0 then runner.evaluate mode second
  | .not command => do
    runner.evaluate .tested command
    setStatus (if (← state).status = 0 then 1 else 0)
  | .subshell line command redirections => checked mode do
    atLine line
    runSubshell runner mode command redirections
  | .redirected line command redirections => do
    atLine line
    restoring redirections do
      if ← redirect runner redirections then runner.evaluate mode.notLast command
      else checked mode (setStatus 2)
  | .background line command => do
    atLine line
    putOff command
    setStatus 0
  | .choice condition yes no => do
    runner.evaluate .tested condition
    if (← state).status = 0 then runner.evaluate mode yes
    else if no.isNothing then setStatus 0
    else runner.evaluate mode no
  | .loop isUntil condition body =>
    asLoop (repeatWhile runner mode.notLast isUntil condition body maxRounds 0)
  | .each line name words body => do
    atLine line
    let values := (← words.mapM (expandFields runner)).flatten
    if values = [] then setStatus 0
    else asLoop (repeatEach runner mode.notLast name body values)
  | .select line subject arms => do
    atLine line
    let text ← expandText runner subject
    match ← matchingArm runner text.toList arms with
    | none => setStatus 0
    | some body => if body.isNothing then setStatus 0 else runner.evaluate mode body
  | .define line name body => do
    atLine line
    modifyState fun state =>
      { state with functions := (name, body) :: state.functions.filter (·.1 ≠ name) }
    setStatus 0

/-- Carries out a command, unless a setting forbids it. Signals are answered before it and behind
it. -/
def step (runner : Runner) (mode : Mode) (command : Command) : ShellM Unit := do
  unless (← state).has 'n' do
    runTraps runner
    runCommand runner mode command
  runTraps runner

end Shell

end Toolbox

end SnapshotSuite
