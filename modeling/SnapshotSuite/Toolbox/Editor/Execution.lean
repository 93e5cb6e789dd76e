import SnapshotSuite.Toolbox.Editor.Replacing
import SnapshotSuite.Toolbox.Job
import SnapshotSuite.Toolbox.Lines
/-!
# Carrying out scripts

The space of a script holds a line of the input, and the store keeps what the script puts aside. At
the end of a script the space is printed, unless that is not wanted. A last line without an end is
printed without one.
-/

namespace SnapshotSuite

namespace Toolbox

namespace Editor

/-- A line of the input. -/
structure InputLine where
  /-- The line. -/
  text : List Char
  /-- Whether it has an end. -/
  hasEnd : Bool
  /-- The file that it comes from. -/
  file : Octets
deriving DecidableEq

/-- The lines of a file. -/
def inputLines (file : Octets) (cs : List Char) : List InputLine :=
  (octetLines cs).map fun line => ⟨withoutEnd line, line.getLast? = some '\n', file⟩

/-- What is printed behind a line. -/
inductive Behind where
  /-- A text. -/
  | text (cs : List Char)
  /-- The content of a file, if it can be read. -/
  | file (path : Octets)

/-- The state of an editor. -/
structure Session where
  /-- The lines that are still to be read. -/
  input : List InputLine
  /-- The space. -/
  space : List Char
  /-- Whether the line that came into the space last has an end. -/
  hasEnd : Bool
  /-- The store. -/
  store : List Char
  /-- Whether the line that came into the store last has an end. -/
  storeHasEnd : Bool
  /-- The number of the line that was read last. -/
  number : Nat
  /-- The file that it comes from. -/
  file : Octets
  /-- Whether something was replaced since it was read. -/
  isReplaced : Bool
  /-- What is to be printed behind it. -/
  behind : List Behind
  /-- The commands whose lines have begun and not ended, with the number of the last line if that is
  known. -/
  ranges : List (Nat × Option Nat)
  /-- The expression that was searched for last. -/
  last : Option Regex
  /-- What has been printed, the last part first. -/
  printed : List (List Char)
  /-- Whether an end of a line is missing behind it. -/
  lacksEnd : Bool

/-- What an editor does. It fails with a complaint. -/
abbrev EditorM := ExceptT Octets (StateT Session Job)

/-- Does something that changes the state of the editor. -/
def modifySession (change : Session → Session) : EditorM Unit :=
  modifyThe Session change

/-- The state of the editor. -/
def session : EditorM Session :=
  getThe Session

/-- Does a job. -/
def perform {α : Type} (job : Job α) : EditorM α :=
  fun session => do return (.ok (← job), session)

/-- Prints a text as it is. -/
def printText (cs : List Char) : EditorM Unit :=
  modifySession fun session =>
    if cs = [] then session
    else
      let missing := if session.lacksEnd then ['\n'] else []
      { session with printed := (missing ++ cs) :: session.printed, lacksEnd := false }

/-- Prints a line; it has an end only if the line that came into the space last has one. -/
def printLine (line : List Char) : EditorM Unit := do
  let hasEnd := (← session).hasEnd
  let missing := if (← session).lacksEnd then ['\n'] else []
  let text := missing ++ line ++ if hasEnd then ['\n'] else []
  modifySession fun session =>
    { session with printed := text :: session.printed, lacksEnd := !hasEnd }

/-- Prints what is to be printed behind the line. -/
def printBehind : EditorM Unit := do
  let behind := (← session).behind
  modifySession fun session => { session with behind := [] }
  behind.forM fun
    | .text cs => printText cs
    | .file path => do
      if let .ok bs := ← perform (Job.load path) then printText (Octets.charsOf bs)

/-- Reads the next line, if there is one. -/
def nextLine? : EditorM (Option InputLine) := do
  match (← session).input with
  | [] => return none
  | line :: input =>
    modifySession fun session =>
      { session with
        input, hasEnd := line.hasEnd, number := session.number + 1, file := line.file,
        isReplaced := false }
    return some line

/-! ### Lines of commands -/

/-- The expression of a pattern. -/
def expressionOf (pattern : Pattern) : EditorM Regex := do
  match pattern.regex.or (← session).last with
  | some regex =>
    modifySession fun session => { session with last := some regex }
    return regex
  | none => throw "no previous regular expression"

/-- Whether the line is at an address. -/
def isAt (address : Address) : EditorM Bool := do
  let session ← session
  match address with
  | .line number => return session.number = number
  | .last => return session.input.isEmpty
  | .step first step =>
    return if step = 0 then session.number = first
      else first ≤ session.number && (session.number - first) % step = 0
  | .found pattern =>
    let regex ← expressionOf pattern
    return (regex.find? (pattern.search session.space) 0).isSome

/-- Marks the lines of a command as begun up to a last line, or as ended. -/
def setRange (index : Nat) (range : Option (Option Nat)) : EditorM Unit :=
  modifySession fun session =>
    let others := session.ranges.filter (·.1 ≠ index)
    { session with
      ranges := match range with
        | some last => (index, last) :: others
        | none => others }

/-- Begins the lines of a command at the line, if the limit lies behind it. -/
def beginRange (index : Nat) (limit : Limit) : EditorM Unit := do
  let number := (← session).number
  let upTo (last : Nat) : EditorM Unit := do
    if number < last then setRange index (some (some last))
  match limit with
  | .address (.line last) => upTo last
  | .further count => upTo (number + count)
  | .multiple factor => upTo (if factor = 0 then number else (number / factor + 1) * factor)
  | .address _ => setRange index (some none)

/-- Whether the line is one of the lines of a selector. -/
def isWithin (index : Nat) (selector : Selector) : EditorM Bool := do
  match selector.first, selector.limit with
  | none, _ => return true
  | some first, none => isAt first
  | some first, some limit =>
    match (← session).ranges.lookup index, limit with
    | none, _ =>
      if ← isAt first then
        beginRange index limit
        return true
      else return false
    | some (some last), _ =>
      let number := (← session).number
      if last ≤ number then setRange index none
      return number ≤ last
    | some none, .address address =>
      if ← isAt address then setRange index none
      return true
    | some none, _ => return true

/-- Whether a command is for the line. -/
def isFor (index : Nat) (selector : Selector) : EditorM Bool := do
  return (← isWithin index selector) != selector.isInverted

/-! ### Commands -/

/-- How a run of the script ends. -/
inductive Ending where
  /-- With the next line of the input, after printing the space or not. -/
  | cycle (prints : Bool)
  /-- With another run on the same space. -/
  | again
  /-- For good, after printing the space or not. -/
  | quit (prints : Bool) (code : Nat)
deriving DecidableEq, Repr

/-- How a command ends: the script goes on with the next command or with another one, or it ends. -/
inductive Flow where
  /-- With the command behind so many others. -/
  | skip (count : Nat)
  /-- At a mark. -/
  | jump (label : Octets)
  /-- The run of the script ends. -/
  | stop (ending : Ending)
deriving DecidableEq, Repr

/-- Changes the space. -/
def modifySpace (change : List Char → List Char) : EditorM Unit :=
  modifySession fun session => { session with space := change session.space }

/-- The first line of a text, without its end. -/
def firstLine (cs : List Char) : List Char :=
  cs.takeWhile (· ≠ '\n')

/-- Writes a line to a file. -/
def writeLine (path : Octets) (line : List Char) : EditorM Unit := do
  if path = "/dev/stdout" then printLine line
  else
    let text := Octets.bytesOfChars (line ++ if (← session).hasEnd then ['\n'] else [])
    if path = "/dev/stderr" then
      let _ ← perform (Job.write 2 text)
    else
      let _ ← perform (Job.store path .appending text)

/-- A letter as an escape, if it does not show. -/
def listed (letter : Regex.Letter) : List (List Char) :=
  letter.map fun c =>
    if c.toNat < 32 ∨ 126 < c.toNat ∨ c = '\\' then
      if c = '\\' then ['\\', '\\'] else (Glyph.mk [c] false).escaped
    else [c]

/-- A text with escapes for what does not show, in lines of a width. -/
def listing (width : Nat) (text : List Char) : List Char :=
  let pieces := text.flatMap fun c => listed [c]
  let (done, current) := pieces.foldl (fun (done, current) piece =>
    if 1 < width ∧ width - 1 < current.length + piece.length then
      (done ++ current ++ ['\\', '\n'], piece)
    else (done, current ++ piece)) (([] : List Char), ([] : List Char))
  done ++ current ++ ['$', '\n']

/-- Carries out a command on a line that it is for. -/
def carryOut (isQuiet : Bool) (index : Nat) (command : Command) : EditorM Flow := do
  let onward : Flow := .skip 0
  let session ← session
  match command.act with
  | .block _ | .label _ => return onward
  | .branch name => return .jump name
  | .branchIf name =>
    modifySession fun session => { session with isReplaced := false }
    return if session.isReplaced then .jump name else onward
  | .branchUnless name =>
    modifySession fun session => { session with isReplaced := false }
    return if session.isReplaced then onward else .jump name
  | .insert text =>
    printText text
    return onward
  | .append text =>
    modifySession fun session => { session with behind := session.behind ++ [.text text] }
    return onward
  | .change text =>
    if (session.ranges.lookup index).isNone ∨ command.selector.isInverted then printText text
    return .stop (.cycle false)
  | .delete => return .stop (.cycle false)
  | .deleteFirst =>
    if !session.space.contains '\n' then return .stop (.cycle false)
    else
      modifySpace fun cs => cs.drop ((firstLine cs).length + 1)
      return .stop .again
  | .print =>
    printLine session.space
    return onward
  | .printFirst =>
    printText (firstLine session.space ++ ['\n'])
    return onward
  | .next =>
    if session.input.isEmpty then return .stop (.quit true 0)
    unless isQuiet do printLine session.space
    printBehind
    if let some line := ← nextLine? then modifySpace fun _ => line.text
    return onward
  | .join =>
    if session.input.isEmpty then return .stop (.quit true 0)
    printBehind
    if let some line := ← nextLine? then modifySpace fun cs => cs ++ '\n' :: line.text
    return onward
  | .hold =>
    modifySession fun session =>
      { session with store := session.space, storeHasEnd := session.hasEnd }
    return onward
  | .holdMore =>
    modifySession fun session =>
      { session with
        store := session.store ++ '\n' :: session.space, storeHasEnd := session.hasEnd }
    return onward
  | .get =>
    modifySession fun session =>
      { session with space := session.store, hasEnd := session.storeHasEnd }
    return onward
  | .getMore =>
    modifySession fun session =>
      { session with
        space := session.space ++ '\n' :: session.store, hasEnd := session.storeHasEnd }
    return onward
  | .exchange =>
    modifySession fun session =>
      { session with
        space := session.store, hasEnd := session.storeHasEnd,
        store := session.space, storeHasEnd := session.hasEnd }
    return onward
  | .quit prints code => return .stop (.quit prints code)
  | .number =>
    printText ((toString session.number).toList ++ ['\n'])
    return onward
  | .list width =>
    printText (listing (width.getD 70) session.space)
    return onward
  | .clear =>
    modifySpace fun _ => []
    return onward
  | .name =>
    printText (session.file.toList ++ ['\n'])
    return onward
  | .readFile path =>
    modifySession fun session => { session with behind := session.behind ++ [.file path] }
    return onward
  | .write isFirst path =>
    writeLine path (if isFirst then firstLine session.space else session.space)
    return onward
  | .substitute substitution =>
    let regex ← expressionOf substitution.pattern
    match substitution.apply? regex session.space with
    | none => return onward
    | some space =>
      modifySession fun session => { session with space, isReplaced := true }
      if substitution.prints then printLine space
      if let some path := substitution.file then writeLine path space
      return onward
  | .exchangeLetters pairs =>
    modifySpace fun cs =>
      (Regex.lettersOf cs).flatMap fun letter => (pairs.lookup letter).getD letter
    return onward

/-- The place of a mark. -/
def placeOf? (script : List Command) (name : Octets) : Option Nat :=
  script.findIdx? fun command =>
    match command.act with
    | .label other => other = name
    | _ => false

/-- Carries out a script from a command on; `fuel` bounds the number of commands. -/
def runFrom (isQuiet : Bool) (script : List Command) : (fuel index : Nat) → EditorM Ending
  | 0, _ => return .cycle true
  | fuel + 1, index => do
    match script[index]? with
    | none => return .cycle true
    | some command =>
      if ← isFor index command.selector then
        match ← carryOut isQuiet index command with
        | .skip count => runFrom isQuiet script fuel (index + 1 + count)
        | .jump "" => return .cycle true
        | .jump name =>
          match placeOf? script name with
          | some place => runFrom isQuiet script fuel place
          | none => return .cycle true
        | .stop ending => return ending
      else
        match command.act with
        | .block length => runFrom isQuiet script fuel (index + 1 + length)
        | _ => runFrom isQuiet script fuel (index + 1)

/-- How many commands a script may carry out for one line. -/
def maxCommands : Nat := 1000000

/-- Carries out a script on the space and on all lines that follow, and gives the code with which it
was left, if it was; `fuel` bounds the number of runs. -/
def runLines (isQuiet : Bool) (script : List Command) : (fuel : Nat) → EditorM (Option Nat)
  | 0 => return none
  | fuel + 1 => do
    let ending ← runFrom isQuiet script maxCommands 0
    let prints :=
      match ending with
      | .cycle prints | .quit prints _ => prints && !isQuiet
      | .again => false
    if prints then printLine (← session).space
    match ending with
    | .quit prints code =>
      if prints then printBehind
      return some code
    | .again =>
      printBehind
      runLines isQuiet script fuel
    | .cycle _ =>
      printBehind
      match ← nextLine? with
      | none => return none
      | some line =>
        modifySpace fun _ => line.text
        runLines isQuiet script fuel

/-- The ranges that have begun before the first line. -/
def firstRanges (script : List Command) : List (Nat × Option Nat) :=
  script.zipIdx.filterMap fun (command, index) =>
    match command.selector.first with
    | some (.line 0) => some (index, none)
    | _ => none

/-- The bytes of the lines of a file among others. -/
def bytesOf (file : Octets) (lines : List InputLine) : Bytes :=
  (lines.filter (·.file = file)).flatMap fun line =>
    Octets.bytesOfChars (line.text ++ if line.hasEnd then ['\n'] else [])

/-- Carries out a script on lines: what is printed, and the code with which it was left, if it was,
or what is wrong. -/
def runScript (isQuiet : Bool) (script : List Command) (input : List InputLine) :
    Job (Except Octets (Option Nat) × List Char) := do
  let start : Session :=
    ⟨input, [], true, [], true, 0, "-", false, [], firstRanges script, none, [], false⟩
  let run : EditorM (Option Nat) := do
    match ← nextLine? with
    | none => return none
    | some line =>
      modifySpace fun _ => line.text
      runLines isQuiet script (input.length * maxCommands)
  let (result, session) ← run.run.run start
  if session.input ≠ [] then Job.stopReading "-" false (bytesOf "-" session.input)
  return (result, session.printed.reverse.flatten)

end Editor

end Toolbox

end SnapshotSuite
