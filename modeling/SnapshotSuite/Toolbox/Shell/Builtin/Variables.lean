import SnapshotSuite.Toolbox.Shell.Builtin.Basic
/-!
# Variables, operands and settings

Variables are exported, protected, made local and removed; operands are replaced and shifted;
settings are letters that have long names too.
-/

namespace SnapshotSuite

namespace Toolbox

namespace Shell

open ShellM

namespace Builtin

/-- The name in front of the equals sign of a word, and the value behind it, if there is one. -/
def cutAssignment (word : Octets) : Octets × Option Octets :=
  let name := word.toList.takeWhile (· ≠ '=')
  match word.toList.drop name.length with
  | [] => (word, none)
  | _ :: value => (String.ofList name, some (String.ofList value))

/-- Shows variables in the order of their names, each behind some words. -/
def showVariables (front : Octets) (isShown : Variable → Bool) : ShellM Unit := do
  let shown := ((← state).bindings.filter fun entry => isShown entry.2).mergeSort
    fun a b => !decide (b.1 < a.1)
  shown.forM fun (name, var) =>
    printLine (front ++ name ++ ((var.value.map fun value => "=" ++ quoted value).getD ""))

/-- Sets the variables of words and marks them. -/
def mark (isMarked : Variable → Bool) (change : Variable → Variable) : Behavior :=
  fun _ _ name words => do
    let arguments ← readOptions [('p', false)] words
    if arguments.operands = [] ∨ arguments.has 'p' then
      showVariables (name ++ " ") isMarked
    else
      arguments.operands.forM fun word => do
        let (variableName, value?) := cutAssignment word
        match value? with
        | some value => setVariable variableName value
        | none =>
          if ((← state).bindings.lookup variableName).isNone then demandName variableName
        modifyVariable variableName change
    return 0

/-- Lets programs have variables. -/
def markExported : Behavior :=
  mark (·.isExported) fun var => { var with isExported := true }

/-- Protects variables. -/
def markReadOnly : Behavior :=
  mark (·.isReadOnly) fun var => { var with isReadOnly := true }

/-- Makes variables local to the function that is being called, or the settings for a dash. -/
def declareLocal : Behavior := fun _ _ _ words => do
  if (← state).scopes.isEmpty then fail "not in a function"
  words.forM fun word => do
    let (name, value?) := cutAssignment word
    if word = "-" then makeSettingsLocal
    else
      match value? with
      | some value =>
        makeLocal name
        storeVariable name value
      | none =>
        demandName name
        makeLocal name
        modifyVariable name id
  return 0

/-- Removes variables or functions. -/
def unset : Behavior := fun _ _ _ words => do
  let arguments ← readOptions [('v', false), ('f', false)] words
  let ofFunctions := (arguments.options.getLast?).any (·.letter = 'f')
  arguments.operands.forM fun name => do
    if ofFunctions then
      modifyState fun state =>
        { state with functions := state.functions.filter (·.1 ≠ name) }
    else
      demandName name
      demandWritable name
      modifyState fun state => state.withVariable name none
  return 0

/-- Drops the first operands. -/
def shift : Behavior := fun _ _ _ words => do
  let count ← numberOr 1 words
  let state ← state
  if state.operands.length < count then fail "can\x27t shift that many"
  modifyState fun state =>
    { state with operands := state.operands.drop count, optionLetters := [] }
  return 0

/-! ### Settings -/

/-- The settings, by their long names; some have no letter that can be set. -/
def settings : List (Octets × Option Char) :=
  [("errexit", some 'e'), ("noglob", some 'f'), ("ignoreeof", some 'I'), ("interactive", some 'i'),
    ("monitor", some 'm'), ("noexec", some 'n'), ("stdin", some 's'), ("xtrace", some 'x'),
    ("verbose", some 'v'), ("vi", some 'V'), ("emacs", some 'E'), ("noclobber", some 'C'),
    ("allexport", some 'a'), ("notify", some 'b'), ("nounset", some 'u'), ("privileged", some 'p'),
    ("nolog", none), ("debug", none)]

/-- Turns the setting of a letter on or off. Of the two ways to edit lines only one can be on. -/
def setLetter (isOn : Bool) (letter : Char) : ShellM Unit := do
  unless settings.any fun entry => entry.2 = some letter do
    fail ("Illegal option -" ++ letter.toString)
  let rival? := [('V', 'E'), ('E', 'V')].lookup letter
  modifyState fun state =>
    let others := state.settings.filter (· ≠ letter)
    if isOn then
      { state with settings := letter :: others.filter (some · ≠ rival?) }
    else { state with settings := others }

/-- Turns the setting of a long name on or off. -/
def setLong (isOn : Bool) (name : Octets) : ShellM Unit := do
  match settings.lookup name with
  | some (some letter) => setLetter isOn letter
  | some none => pure ()
  | none => fail ("Illegal option -o " ++ name)

/-- Shows all settings, of which some are on: as a table, or as the commands that set them. -/
def showSettingsBy (isOn : Option Char → Bool) (isTable : Bool) : ShellM Unit := do
  if isTable then
    printLine "Current option settings"
    settings.forM fun (name, letter?) =>
      printLine (name ++ String.ofList (List.replicate (16 - name.length) ' ') ++
        if isOn letter? then "on" else "off")
  else
    settings.forM fun (name, letter?) =>
      printLine ("set " ++ (if isOn letter? then "-o " else "+o ") ++ name)

/-- Shows all settings as they are. -/
def showSettings (isTable : Bool) : ShellM Unit := do
  let state ← state
  showSettingsBy (fun letter? => letter?.any state.has) isTable

/-- Makes the settings of the letters in a word. One of them takes a long name from the words behind,
and without one the settings are listed. Gives the words that are left. -/
def setLetters (list : (isTable : Bool) → ShellM Unit) (isOn : Bool) :
    List Char → List Octets → ShellM (List Octets)
  | [], words => return words
  | 'o' :: letters, [] => do
    list isOn
    setLetters list isOn letters []
  | 'o' :: letters, name :: words => do
    setLong isOn name
    setLetters list isOn letters words
  | letter :: letters, words => do
    setLetter isOn letter
    setLetters list isOn letters words

/-- Makes the settings that words ask for. Gives the words behind them, if there are any or if the
end of the settings was marked. `fuel` bounds the number of words. -/
def readSettings : (fuel : Nat) → List Octets → ShellM (Option (List Octets))
  | 0, _ => return none
  | _, [] => return none
  | fuel + 1, word :: words => do
    match word.toList with
    | ['-'] =>
      setLetter false 'x'
      setLetter false 'v'
      return if words = [] then none else some words
    | ['-', '-'] => return some words
    | c :: letters =>
      if c = '-' ∨ c = '+' then
        readSettings fuel (← setLetters showSettings (c = '-') letters words)
      else return some (word :: words)
    | [] => return some (word :: words)

/-- Gives up the setting for which a terminal is needed, since there is none. A process that was
started by another shell does not look for one. -/
def missTerminal : ShellM Unit := do
  let before ← state
  if before.has 'm' ∧ before.process.number = before.mainProcess then
    modifyState fun state => { state with settings := state.settings.filter (· ≠ 'm') }
    warn "can\x27t access tty; job control turned off"

/-- Makes settings and replaces the operands, or shows all variables. -/
def configure : Behavior := fun _ _ _ words => do
  if words = [] then showVariables "" (·.value.isSome)
  else if let some operands ← readSettings words.length words then
    modifyState fun state => { state with operands, optionLetters := [] }
  missTerminal
  return 0

/-! ### Options of scripts -/

/-- What the next option among words is. -/
inductive ScriptOption where
  /-- There is none; so many words are passed over. -/
  | none (passed : Nat)
  /-- A letter, with what is left of its word; so many words are passed over. -/
  | letter (c : Char) (rest : List Char) (passed : Nat)

/-- The next option, behind what is left of a word. -/
def nextOption (left : List Char) (words : List Octets) : ScriptOption :=
  match left, words with
  | c :: cs, _ => .letter c cs 0
  | [], word :: _ =>
    match word.toList with
    | ['-', '-'] => .none 1
    | '-' :: c :: cs => .letter c cs 1
    | _ => .none 0
  | [], [] => .none 0

/-- Reads the next option of the operands, or of other words, into a variable. -/
def getopts : Behavior := fun _ _ _ words => do
  match words with
  | known :: name :: words =>
    let state ← state
    let words := if words = [] then state.operands else words
    let index := ((state.value? "OPTIND").bind fun text =>
      if isNumber text then some (digitsValue text.toList) else none).getD 1
    let isQuiet := known.toList.head? = some ':'
    let rest := words.drop (index - 1)
    let finish (passed : Nat) (letters : List Char) (letter : Char) : ShellM Unit := do
      setVariable "OPTIND" (toString (max index 1 + passed))
      modifyState fun state => { state with optionLetters := letters }
      setVariable name letter.toString
    let refuse (c : Char) (complaint : Octets) (passed : Nat) (letters : List Char)
        (letter : Char) : ShellM Unit := do
      if isQuiet then setVariable "OPTARG" c.toString
      else
        perform (Job.complain (complaint ++ c.toString ++
          if letter = ':' then " option" else ""))
        modifyState fun state => state.withVariable "OPTARG" none
      finish passed letters (if isQuiet then letter else '?')
    match nextOption state.optionLetters rest with
    | .none passed =>
      finish passed [] '?'
      return 1
    | .letter c letters passed =>
      let behind := (known.toList.dropWhile (· ≠ c))
      if c = ':' ∨ behind = [] then
        refuse c "Illegal option -" passed letters '?'
      else if behind[1]? = some ':' then
        match letters, rest.drop passed with
        | [], [] => refuse c "No arg for -" passed [] ':'
        | [], value :: _ =>
          setVariable "OPTARG" value
          finish (passed + 1) [] c
        | letters, _ =>
          setVariable "OPTARG" (String.ofList letters)
          finish passed [] c
      else
        setVariable "OPTARG" ""
        finish passed letters c
      return 0
  | _ => fail "Usage: getopts optstring var [arg...]"

end Builtin

end Shell

end Toolbox

end SnapshotSuite
