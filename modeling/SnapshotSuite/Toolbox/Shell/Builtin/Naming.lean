import SnapshotSuite.Toolbox.Shell.Builtin.Basic
import SnapshotSuite.Toolbox.Permissions
import SnapshotSuite.Toolbox.Shell.Launching
/-!
# What names mean

The meanings of the names of commands are shown; aliases are set and removed.
-/

namespace SnapshotSuite

namespace Toolbox

namespace Shell

open ShellM

namespace Builtin

/-- The drawer, of so many, in which a name is kept. Names are shown drawer by drawer. -/
def drawer (count : Nat) (name : Octets) : Nat :=
  match name.toList with
  | [] => 0
  | c :: cs => (c.toNat * 16 + (c :: cs).foldl (fun n c => n + c.toNat) 0) % count

/-- What is kept under names, in the order in which it is shown. -/
def inDrawers {α : Type} (count : Nat) (entries : List (Octets × α)) : List (Octets × α) :=
  entries.mergeSort fun a b => drawer count a.1 ≤ drawer count b.1

/-- Shows an alias. -/
def showAlias (name text : Octets) : ShellM Unit :=
  printLine (name ++ "=" ++ quoted text)

/-- Sets aliases or shows them. -/
def setAliases : Behavior := fun _ _ _ words => do
  if words = [] then
    (inDrawers 39 (← state).aliases).forM fun (name, text) => showAlias name text
    return 0
  else
    words.foldlM (fun status word => do
      let name := word.toList.takeWhile (· ≠ '=')
      match word.toList.drop name.length, (← state).aliases.lookup word with
      | _ :: text, _ =>
        modifyState fun state =>
          let others := state.aliases.filter (·.1 ≠ String.ofList name)
          { state with aliases := others ++ [(String.ofList name, String.ofList text)] }
        return status
      | [], some text =>
        showAlias word text
        return status
      | [], none =>
        perform (Job.complain ("alias: " ++ word ++ " not found"))
        return 1) 0

/-- Removes aliases. -/
def removeAliases : Behavior := fun _ _ _ words => do
  let arguments ← readOptions [('a', false)] words
  if arguments.has 'a' then
    modifyState fun state => { state with aliases := [] }
    return 0
  else
    arguments.operands.foldlM (fun status name => do
      if ((← state).aliases.lookup name).isSome then
        modifyState fun state => { state with aliases := state.aliases.filter (·.1 ≠ name) }
        return status
      else
        perform (Job.complain ("unalias: " ++ name ++ " not found"))
        return 1) 0

/-! ### Meanings -/

/-- The path of a program, and the words for it. -/
def describeProgram (runner : Runner) (name path : Octets) :
    ShellM (Option (Octets × Octets)) := do
  let state ← state
  if name.toList.contains '/' then
    let w ← workspace
    let isTool := (runner.tools.at? (w.place (Octets.text path))).isSome
    return if isTool || w.isPresent (Octets.text path) then some (path, " is " ++ path) else none
  else if (state.found.lookup name).isSome then
    return some (path, " is a tracked alias for " ++ path)
  else return some (path, " is " ++ path)

/-- Shows what a name means: in words, or by what could be called instead. -/
def describe (runner : Runner) (isInWords : Bool) (directories : List Octets) (name : Octets) :
    ShellM Nat := do
  let show_ (brief words : Octets) : ShellM Nat := do
    printLine (if isInWords then name ++ words else brief)
    return 0
  let missing : ShellM Nat := do
    if isInWords then printLine (name ++ ": not found")
    return 127
  if keywords.contains name then show_ name " is a shell keyword"
  else
    match (← state).aliases.lookup name with
    | some text =>
      if isInWords then show_ "" (" is an alias for " ++ text)
      else
        print "alias "
        showAlias name text
        return 0
    | none =>
      match ← meaningOf runner true directories name with
      | .function _ => show_ name " is a shell function"
      | .builtin isSpecial =>
        show_ name (if isSpecial then " is a special shell builtin" else " is a shell builtin")
      | .program path =>
        match ← describeProgram runner name path with
        | some (path, words) => show_ path words
        | none => missing
      | .unknown _ => missing

/-- Shows what names mean. -/
def showMeanings : Behavior := fun runner _ _ words => do
  let directories := (← state).directories
  words.foldlM (fun status name => do
    let other ← describe runner true directories name
    return max status other) 0

/-- Shows what the first name means, in words or briefly. -/
def showMeaning : Behavior := fun runner _ _ words => do
  let arguments ← readOptions [('p', false), ('v', false), ('V', false)] words
  let state ← state
  let directories := if arguments.has 'p' then standardDirectories else state.directories
  match arguments.operands with
  | name :: _ =>
    if arguments.has 'v' ∨ arguments.has 'V' then
      describe runner (!arguments.has 'v') directories name
    else return 0
  | [] => return 0

/-- Looks programs up, or shows those that have been found. -/
def track : Behavior := fun runner _ _ words => do
  let arguments ← readOptions [('r', false)] words
  if arguments.has 'r' then
    modifyState fun state => { state with found := [] }
    return 0
  else if arguments.operands = [] then
    (inDrawers 31 (← state).found).forM fun (_, path) => printLine path
    return 0
  else
    let directories := (← state).directories
    arguments.operands.foldlM (fun status name => do
      match ← meaningOf runner true directories name with
      | .unknown error =>
        warn (name ++ ": " ++ startFault error)
        return 1
      | .program path =>
        unless name.toList.contains '/' do noteFound name path
        return status
      | _ => return status) 0

/-! ### Permissions and limits -/

/-- The permissions that are left by a mask, in letters. -/
def permissionLetters (mask : Nat) : Octets :=
  let part (name : String) (shift : Nat) : Octets :=
    let bits := mask / shift % 8
    let letter (bit : Nat) (c : String) : String := if bits / bit % 2 = 0 then c else ""
    name ++ "=" ++ letter 4 "r" ++ letter 2 "w" ++ letter 1 "x"
  part "u" 64 ++ "," ++ part "g" 8 ++ "," ++ part "o" 1

/-- The permissions of one owner that letters name, where some are given already. -/
def letterBits (given : Nat) (letters : List Char) : Nat :=
  let bits (c : Char) : Nat :=
    match c with
    | 'r' => 4
    | 'w' => 2
    | 'x' => 1
    | 'u' => given / 64
    | 'g' => given / 8
    | 'o' => given
    | 'X' => if given &&& 0o111 = 0 then 0 else 1
    | _ => 0
  (letters.foldl (fun all c => all ||| bits c) 0) % 8

/-- The permissions after changes that are written in letters, where some are given already and
some have been reached; `none` if the changes are not written right. `fuel` bounds their length. -/
def changedPermissions? (given : Nat) :
    (fuel owners reached : Nat) → List Char → Option Nat
  | 0, _, _, _ => none
  | _, _, reached, [] => some reached
  | fuel + 1, owners, reached, cs =>
    let ownerLetters := cs.takeWhile "augo".toList.contains
    let owners :=
      if owners ≠ 0 ∧ ownerLetters = [] then owners
      else owners ||| ownerBits (if ownerLetters = [] then ['a'] else ownerLetters)
    match cs.drop ownerLetters.length with
    | [] => none
    | sign :: cs =>
      if !"=+-".toList.contains sign then none
      else
        let letters := cs.takeWhile "rwxugoXs".toList.contains
        let bits := letterBits given letters * owners
        let reached :=
          if sign = '-' then reached &&& (0o777 - bits)
          else if sign = '+' then reached ||| bits
          else bits ||| (reached &&& (0o777 - owners * 7))
        match cs.drop letters.length with
        | [] => some reached
        | ',' :: rest => changedPermissions? given fuel 0 reached rest
        | c :: rest =>
          if "=+-".toList.contains c then changedPermissions? given fuel owners reached (c :: rest)
          else none

/-- The mask that a word writes, in digits or as changes of the one before. -/
def newMask (mask : Nat) (word : Octets) : ShellM Nat := do
  let cs := word.toList
  if cs.head?.any Char.isDigit then
    unless cs.all fun c => '0' ≤ c && c ≤ '7' do fail ("Illegal number: " ++ word)
    return cs.foldl (fun n c => n * 8 + (c.toNat - 48)) 0 % 0o1000
  else
    match changedPermissions? (0o777 - mask) (cs.length + 1) 0 (0o777 - mask) cs with
    | some permissions => return 0o777 - permissions
    | none => fail ("Illegal mode: " ++ word)

/-- Sets or shows the permissions that new files do not get. -/
def umask : Behavior := fun _ _ _ words => do
  let arguments ← readOptions [('S', false)] words
  let mask := (← state).process.mask
  match arguments.operands with
  | [] => printLine (if arguments.has 'S' then permissionLetters mask else paddedOctal 4 mask)
  | word :: _ =>
    let mask ← newMask mask word
    modifyState fun state => { state with process := { state.process with mask } }
  return 0

/-- The amount that a word writes in a unit; `none` is without end. -/
def amount (unit : Nat) (word : Octets) : ShellM (Option Nat) := do
  if word = "unlimited" then return none
  else
    unless word.toList.all Char.isDigit do fail "bad number"
    return some (digitsValue word.toList * unit % 0x10000000000000000)

/-- Sets limits, or shows one or all of them. Where nothing else is said, the soft limit is shown,
and both are set. -/
def ulimit : Behavior := fun _ _ _ words => do
  let limits := (← state).process.limits
  let known := ['H', 'S', 'a'] ++ limits.map (·.letter)
  let arguments ← readOptions (known.map (·, false)) words
  let side? := (arguments.options.filter fun o => o.letter = 'H' || o.letter = 'S').getLast?
  let isHard := side?.any (·.letter = 'H')
  let chosen := (arguments.options.filter fun o => !(['H', 'S', 'a'].contains o.letter)).getLast?
  let letter := (chosen.map (·.letter)).getD 'f'
  let shown (limit : Limit) : Octets := limit.words (if isHard then limit.hard else limit.soft)
  match arguments.operands with
  | [] =>
    if arguments.has 'a' then
      limits.forM fun limit =>
        let padding := List.replicate (20 - limit.name.length) ' '
        printLine (limit.name ++ String.ofList padding ++ " " ++ shown limit)
    else (limits.find? (·.letter = letter)).forM fun limit => printLine (shown limit)
  | word :: rest =>
    if arguments.has 'a' ∨ rest ≠ [] then fail "too many arguments"
    let some limit := limits.find? (·.letter = letter) | return 0
    let value ← amount limit.unit word
    let soft := if isHard then limit.soft else value
    let hard := if isHard || side?.isNone then value else limit.hard
    let refuse (error : SystemError) : ShellM Unit :=
      fail ("error setting limit (" ++ error.words ++ ")")
    if Limit.exceeds soft hard then refuse .invalid
    if Limit.exceeds hard limit.hard then refuse .notPermitted
    let changed := limits.map fun other =>
      if other.letter = letter then { other with soft, hard } else other
    modifyState fun state => { state with process := { state.process with limits := changed } }
  return 0

/-- Shows how long the shell has been busy. -/
def times : Behavior := fun _ _ _ _ => do
  printLine "0m0.000000s 0m0.000000s"
  printLine "0m0.000000s 0m0.000000s"
  return 0

end Builtin

end Shell

end Toolbox

end SnapshotSuite
