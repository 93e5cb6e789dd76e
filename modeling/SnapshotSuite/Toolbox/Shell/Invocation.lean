import SnapshotSuite.Toolbox.Shell.Evaluation
/-!
# The shell as a tool

A shell is called with settings and then with a script: a text behind the setting that asks for one,
a file, or what standard input holds. The words behind it are its name and its operands.
-/

namespace SnapshotSuite

namespace Toolbox

namespace Shell

open ShellM

/-- The variables of a shell that come from nowhere. -/
def ownVariables (process : Process) : List (Octets × Octets) :=
  [("IFS", " \t\n"), ("OPTIND", "1"), ("PPID", toString process.parent), ("PS1", "# "),
    ("PS2", "> "), ("PS4", "+ ")]

/-- The variables with which a shell begins. -/
def firstVariables (process : Process) : List (Octets × Variable) :=
  let own := ownVariables process
  let given := process.environment.filter fun (name, _) => isName name && (own.lookup name).isNone
  let path :=
    if (given.lookup "PATH").isSome then []
    else [("PATH", Variable.mk (some (":".intercalate standardDirectories)) false false)]
  let directory := ("PWD", Variable.mk (some process.directoryPath) true false)
  own.map (fun (name, value) => (name, ⟨some value, false, false⟩)) ++ path ++
    (given.filter (·.1 ≠ "PWD")).map (fun (name, value) => (name, ⟨some value, true, false⟩)) ++
    [directory]

/-- The state in which a shell begins. -/
def firstState (process : Process) (name : Octets) : State where
  name := name
  operands := []
  bindings := firstVariables process
  functions := []
  aliases := []
  found := []
  settings := []
  status := 0
  documents := #[]
  process := process
  mainProcess := process.number
  background := none
  traps := []
  pending := []
  line := 0
  lineRead := 1
  caller := none
  loops := 0
  calls := 0
  scopes := []
  optionLetters := []
  printed := []
  finalStatus := none
  outputStatus := 0

/-- The words of a call of a shell, as far as they have been read. -/
structure Invocation where
  /-- Whether the script is a text among the words. -/
  hasText : Bool
  /-- The words behind the settings. -/
  words : List Octets

/-- Makes the settings in front of a call. While they are being made, they are all shown as on.
`fuel` bounds the number of words. -/
def readInvocation : (fuel : Nat) → (hasText : Bool) → List Octets → ShellM Invocation
  | 0, hasText, words => return ⟨hasText, words⟩
  | _, hasText, [] => return ⟨hasText, []⟩
  | fuel + 1, hasText, word :: words => do
    match word.toList with
    | ['-'] | ['-', '-'] => return ⟨hasText, words⟩
    | c :: letters =>
      if c = '-' ∨ c = '+' then
        let own := letters.filter fun letter => letter ≠ 'c' && letter ≠ 'l'
        let words ← Builtin.setLetters (Builtin.showSettingsBy fun _ => true) (c = '-') own words
        readInvocation fuel (hasText || letters.contains 'c') words
      else return ⟨hasText, word :: words⟩
    | [] => return ⟨hasText, word :: words⟩

/-- Carries out a script that is read from somewhere. A script may be left before its end. -/
def runScript (runner : Runner) (cs : List Char) : ShellM Unit := do
  try discard (runSource runner .plain true cs)
  catch halt => unless halt matches .returning _ do throw halt

/-- Carries out what standard input holds. -/
def runInput (runner : Runner) : ShellM Unit := do
  match ← perform (Job.readAll 0) with
  | .ok bs => runScript runner ((Octets.charsOf bs).filter (· ≠ '\x00'))
  | .error _ => pure ()

/-- Does what the words of a call say. -/
def runWords (runner : Runner) (words : List Octets) : ShellM Unit := do
  let invocation ← readInvocation words.length false words
  let _ ← flush
  if (← state).has 'i' then Builtin.setLetter true 'm'
  Builtin.missTerminal
  match invocation.hasText, invocation.words with
  | true, [] => fail "-c requires an argument"
  | true, text :: words =>
    modifyState fun state =>
      { state with name := words.headD state.name, operands := words.tail }
    let readsInput := (← state).has 's'
    let _ ← runText runner .plain text
    if readsInput then runInput runner
  | false, words =>
    if words = [] ∨ (← state).has 's' then
      modifyState fun state =>
        { state with operands := words, settings := 's' :: state.settings.filter (· ≠ 's') }
      runInput runner
    else
      let path := words.headD ""
      let cs ← Builtin.loadScript path
      modifyState fun state => { state with name := path, operands := words.tail }
      runScript runner cs

end Shell

/-- The shell, run by what carries out commands and finds programs. -/
def shell (runner : Shell.Runner) : Tool := fun name words => do
  let process ← read
  let action : Shell.ShellM ExitStatus := do
    let ending ← Shell.conclude runner (Shell.runWords runner words)
    Shell.runTasks runner
    return ending
  let world ← get
  let (ending, machine) := action.run ⟨world, Shell.firstState process name, []⟩
  set machine.world
  match ending with
  | .ok ending => return ending
  | .error _ => return .code 2

end Toolbox

end SnapshotSuite
