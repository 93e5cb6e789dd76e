import SnapshotSuite.Toolbox.Shell.Builtin.Table
/-!
# Calls

A call is expanded, its redirections and assignments are made, and then what its first word means is
carried out. Assignments in front of a special command stay; those in front of other commands are
gone behind the call, and so are the redirections.
-/

namespace SnapshotSuite

namespace Toolbox

namespace Shell

open ShellM

/-- The words of a call, of which the first are expanded. -/
structure CallWords where
  /-- The words that are expanded. -/
  words : List Octets
  /-- The words that are not. -/
  rest : List Word

/-- Expands words until one more is there, if that is possible. -/
def expandNext (runner : Runner) (words : List Octets) : List Word → ShellM CallWords
  | [] => return ⟨words, []⟩
  | word :: rest => do
    match ← expandFields runner word with
    | [] => expandNext runner words rest
    | more => return ⟨words ++ more, rest⟩

/-- Sees to it that there are words behind so many others, if that is possible. -/
def CallWords.demand (runner : Runner) (count : Nat) (call : CallWords) : ShellM CallWords :=
  if count < call.words.length then return call else expandNext runner call.words call.rest

/-- What follows the word that passes over functions. -/
inductive Passing where
  /-- Some options, and then a call in its own right, whose words begin at a place. -/
  | call (words : CallWords) (start : Nat) (isStandard : Bool)
  /-- No call. -/
  | none (words : CallWords)

/-- Reads the options behind the word that passes over functions, from a place on; `fuel` bounds
their number. -/
def readPassing (runner : Runner) :
    (fuel : Nat) → CallWords → (start : Nat) → (isStandard : Bool) → ShellM Passing
  | 0, call, _, _ => return .none call
  | fuel + 1, call, start, isStandard => do
    let call ← call.demand runner start
    match (call.words[start]?).map String.toList with
    | some ['-', '-'] =>
      let call ← call.demand runner (start + 1)
      return if call.words.length = start + 1 then .none call
        else .call call (start + 1) isStandard
    | some ('-' :: c :: cs) =>
      if (c :: cs).all (· = 'p') then readPassing runner fuel call (start + 1) true
      else return .none call
    | some _ => return .call call start isStandard
    | none => return .none call

/-- A call whose first word is known. -/
structure KnownCall where
  /-- The words. -/
  call : CallWords
  /-- Where its own words begin. -/
  start : Nat
  /-- What the first of them means. -/
  meaning : Meaning
  /-- Whether it is a special command. -/
  isSpecial : Bool
  /-- Whether its assignments are gone behind it. -/
  isLocal : Bool
  /-- Whether functions are passed over. -/
  hasFunctions : Bool
  /-- Whether programs are looked for in the standard directories. -/
  isStandard : Bool

/-- Finds out what a call begins with; `fuel` bounds how often functions are passed over. -/
def know (runner : Runner) :
    (fuel : Nat) → CallWords → (start : Nat) → (isFirst isStandard : Bool) → ShellM KnownCall
  | fuel, call, start, isFirst, isStandard => do
    let own := (← state).directories
    let directories := if isStandard then standardDirectories else own
    let name := call.words.getD start ""
    let meaning ← meaningOf runner isFirst directories name
    let isSpecial := isFirst && (meaning matches .builtin true)
    let known : KnownCall :=
      ⟨call, start, meaning, isSpecial, !isSpecial, isFirst, isStandard⟩
    match fuel, meaning with
    | fuel + 1, .builtin false =>
      if name = "command" then
        match ← readPassing runner (call.rest.length + call.words.length + 2) call (start + 1)
          isStandard with
        | .call call start isStandard => know runner fuel call start false isStandard
        | .none call => return { known with call }
      else return known
    | _, _ => return known

/-- Expands the words of a call that are left; a command may take assignments among them. -/
def expandRest (runner : Runner) (takesAssignments : Bool) (call : CallWords) :
    ShellM (List Octets) := do
  let more ← call.rest.mapM fun word => do
    if takesAssignments && isAssignment word then return [← expandAssignment runner word]
    else expandFields runner word
  return call.words ++ more.flatten

/-- Cuts an assignment into the name and the value. -/
def assignmentParts (text : Octets) : Octets × Octets :=
  let name := text.toList.takeWhile (· ≠ '=')
  (String.ofList name, String.ofList (text.toList.drop (name.length + 1)))

/-- Makes an assignment, and gives its text. -/
def assign (runner : Runner) (isLocal isExported : Bool) (word : Word) : ShellM Octets := do
  let text ← expandAssignment runner word
  let (name, value) := assignmentParts text
  if isLocal then
    demandWritable name
    makeLocal name
  setVariable name value
  if isLocal ∨ isExported then
    modifyVariable name fun var => { var with isExported := true }
  return text

/-- The mark in front of calls that are shown, with its parameters and scripts expanded, or as it
stands if that is not possible. Nothing is shown meanwhile. -/
def traceMark (runner : Runner) : ShellM Octets := do
  let before ← state
  let mark := (before.value? "PS4").getD ""
  match Reader.text.run (Source.ofText mark.toList before.documents []) with
  | .error fault =>
    warn ("Syntax error: " ++ fault.complaint)
    return mark
  | .ok (word, _) =>
    modifyState fun state => { state with settings := state.settings.filter (· ≠ 'x') }
    let restore := modifyState fun state => { state with settings := before.settings }
    try
      let text ← expandDocument runner word
      restore
      return text
    catch halt =>
      restore
      if halt = .failed then return mark else throw halt

/-- Shows a call before it is carried out, where complaints went before its redirections. -/
def trace (runner : Runner) (index? : Option Nat) (words : List Octets) : ShellM Unit := do
  if (← state).has 'x' then
    if let some index := index? then
      let line := (← traceMark runner) ++ " ".intercalate words ++ "\n"
      let _ ← perform (Job.attempt fun world =>
        (world.append index (Octets.bytes line)).map ((), ·))

/-- How many calls of functions can be open. -/
def maxCalls : Nat := 1000

/-- Calls a function. -/
def callFunction (runner : Runner) (mode : Mode) (body : Command) (operands : List Octets) :
    ShellM Unit := do
  let before ← state
  if before.calls = maxCalls then
    fail ("Maximum function recursion depth (" ++ toString maxCalls ++ ") reached")
  modifyState fun state =>
    { state with operands, loops := 0, calls := state.calls + 1, optionLetters := [] }
  ensuring (do
      try runner.evaluate mode.notLast body
      catch halt => unless halt matches .returning _ do throw halt)
    (modifyState fun state =>
      { state with
        operands := before.operands
        loops := before.loops
        calls := before.calls
        optionLetters := before.optionLetters })

/-- Carries out a call whose words, redirections and assignments are done. -/
def carryOut (runner : Runner) (mode : Mode) (known : KnownCall) (words : List Octets) :
    ShellM Unit := do
  let name := words.headD ""
  let isBuiltin := known.meaning matches .builtin _
  let meaning ←
    if isBuiltin then pure known.meaning
    else do
      let own := (← state).directories
      let directories := if known.isStandard then standardDirectories else own
      meaningOf runner known.hasFunctions directories name
  match meaning with
  | .builtin _ =>
    if let some builtin := Builtin.named? name then
      try builtin.call runner mode words.tail
      catch halt =>
        unless halt = .failed ∧ !known.isSpecial do throw halt
  | .function body => callFunction runner mode body words.tail
  | .program path =>
    unless name.toList.contains '/' do noteFound name path
    setStatus (← launch runner mode path name words.tail)
  | .unknown error =>
    warn (name ++ ": " ++ startFault error)
    setStatus 127

/-- Carries out a call. -/
def runCall (runner : Runner) (mode : Mode) (line : Nat) (assignments words : List Word)
    (redirections : List Redirection) : ShellM Unit := do
  modifyState fun state => { state with line, outputStatus := 0 }
  let call ← expandNext runner [] words
  if call.words = [] then
    let before := (← state).process
    let isPossible ← redirect runner redirections
    let errors? := before.descriptors.lookup 2
    ensuring (do
        if isPossible then
          let texts ← assignments.mapM (assign runner false false)
          trace runner errors? texts
          setStatus (← state).outputStatus
        else setStatus 2)
      (restoreDescriptors before redirections)
  else
    let known ← know runner (words.length + call.words.length) call 0 true false
    let builtin? :=
      if known.meaning matches .builtin _ then
        Builtin.named? (known.call.words.getD known.start "")
      else none
    let all ← expandRest runner (builtin?.any (·.takesAssignments)) known.call
    let own := all.drop known.start
    let isExec := builtin?.any (·.name = "exec")
    let before := (← state).process
    let carriedOut : ShellM Unit :=
      ensuring (do
          if ← redirect runner redirections then
            let texts ←
              assignments.mapM (assign runner known.isLocal (isExec && 1 < own.length))
            trace runner (before.descriptors.lookup 2) (texts ++ all)
            carryOut runner mode known own
          else
            setStatus 2
            if known.isSpecial then throw .failed)
        (unless isExec do restoreDescriptors before redirections)
    if known.isLocal then inScope carriedOut else carriedOut

end Shell

end Toolbox

end SnapshotSuite
