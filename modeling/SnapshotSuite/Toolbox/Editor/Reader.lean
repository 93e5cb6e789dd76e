import SnapshotSuite.Text.Reader
import SnapshotSuite.Toolbox.Editor.Script
/-!
# Reading scripts

Commands stand on lines of their own or are parted by semicolons. What is wrong with a script is
reported with the number of characters that had been read.
-/

namespace SnapshotSuite

namespace Toolbox

namespace Editor

/-- What is wrong with a script: the words, and what had not been read, if that matters. -/
structure Fault where
  /-- The words. -/
  words : Octets
  /-- The number of characters that are left; none if the place does not matter. -/
  left : Option Nat
deriving DecidableEq, Repr

/-- A reading that fails at some place. -/
def failAt {α : Type} (cs : List Char) (words : Octets) : Except Fault α :=
  .error ⟨words, some cs.length⟩

/-- Whether a character is a blank inside a line. -/
def isBlank (c : Char) : Bool :=
  isSpaceOctet c && c ≠ '\n'

/-- A number in front, if there is one, and what follows it. -/
def number? (cs : List Char) : Option Nat × List Char :=
  let digits := cs.takeWhile Char.isDigit
  (if digits = [] then none else some (digitsValue digits), cs.drop digits.length)

/-! ### Texts between delimiters -/

/-- The length of a bracket expression behind its opening bracket, if it is closed. -/
def bracketLength? (cs : List Char) : Option Nat :=
  let front :=
    match cs with
    | '^' :: ']' :: _ => 2
    | '^' :: _ | ']' :: _ => 1
    | _ => 0
  (go cs.length (cs.drop front)).map (front + ·)
where
  /-- The length up to the closing bracket; `fuel` bounds it. -/
  go : (fuel : Nat) → List Char → Option Nat
    | 0, _ | _, [] => none
    | _, ']' :: _ => some 1
    | fuel + 1, '[' :: c :: cs =>
      if ":.=".toList.contains c then
        let inner := cs.takeWhile (· ≠ ']')
        (go fuel (cs.drop (inner.length + 1))).map (· + inner.length + 3)
      else (go fuel (c :: cs)).map (· + 1)
    | fuel + 1, _ :: cs => (go fuel cs).map (· + 1)

/-- The text up to a delimiter, which counts as plain behind a backslash, and what follows; `none` if
a line ends before it. `fuel` bounds the length. -/
def delimited? (delimiter : Char) (isRegex : Bool) :
    (fuel : Nat) → List Char → Option (List Char × List Char)
  | 0, _ | _, [] => none
  | fuel + 1, c :: cs =>
    let follow (front : List Char) (rest : List Char) : Option (List Char × List Char) :=
      (delimited? delimiter isRegex fuel rest).map fun (text, rest) => (front ++ text, rest)
    if c = delimiter then some ([], cs)
    else if c = '\n' then none
    else if c = '\\' then
      match cs with
      | [] => none
      | d :: rest =>
        if d = 'n' ∧ isRegex then follow ['\n'] rest
        else if d = '\n' ∨ (d = delimiter ∧ (isRegex ∨ d ≠ '&')) then follow [d] rest
        else follow ['\\', d] rest
    else if c = '[' ∧ isRegex then
      match bracketLength? cs with
      | some length => follow ('[' :: cs.take length) (cs.drop length)
      | none => none
    else follow [c] cs

/-- The style of expressions. -/
def styleOf (isExtended : Bool) : Regex.Style :=
  ⟨isExtended, true⟩

/-- A pattern of an expression, and its number of groups. An empty one stands for the last. -/
def pattern (isExtended ignoresCase hasLines : Bool) (text rest : List Char) :
    Except Fault (Pattern × Nat) :=
  if text = [] then .ok (⟨none, ignoresCase, hasLines⟩, 9)
  else
    match Regex.read (styleOf isExtended) (Regex.lettersOf text) with
    | .ok (regex, groups) => .ok (⟨some regex, ignoresCase, hasLines⟩, groups)
    | .error words => failAt rest words

/-! ### Addresses -/

/-- The address in front, if there is one, and what follows it. -/
def address? (isExtended : Bool) (cs : List Char) :
    Except Fault (Option (Address × List Char)) := do
  let regex (delimiter : Char) (cs : List Char) : Except Fault (Option (Address × List Char)) := do
    match delimited? delimiter true (cs.length + 1) cs with
    | none => failAt (cs.dropWhile (· ≠ '\n')) "unterminated address regex"
    | some (text, rest) =>
      let flags := rest.takeWhile fun c => c = 'I' || c = 'M'
      let rest := rest.drop flags.length
      let (pattern, _) ← pattern isExtended (flags.contains 'I') (flags.contains 'M') text rest
      return some (.found pattern, rest)
  match cs with
  | '/' :: rest => regex '/' rest
  | '\\' :: c :: rest => regex c rest
  | '$' :: rest => return some (.last, rest)
  | cs =>
    match number? cs with
    | (none, _) => return none
    | (some first, '~' :: rest) =>
      let (step, rest) := number? rest
      return some (.step first (step.getD 0), rest)
    | (some number, rest) => return some (.line number, rest)

/-- The limit in front, if there is one, and what follows it. -/
def limit? (isExtended : Bool) (cs : List Char) : Except Fault (Option (Limit × List Char)) := do
  match cs with
  | '+' :: rest =>
    let (count, rest) := number? rest
    return count.map fun count => (.further count, rest)
  | '~' :: rest =>
    let (factor, rest) := number? rest
    return factor.map fun factor => (.multiple factor, rest)
  | cs => return (← address? isExtended cs).map fun (address, rest) => (.address address, rest)

/-- The lines that a command is for, and the command. -/
def selector (isExtended : Bool) (cs : List Char) : Except Fault (Selector × List Char) := do
  let (first, limit, cs) ←
    match ← address? isExtended cs with
    | none => pure (none, none, cs)
    | some (first, rest) =>
      match rest.dropWhile isBlank with
      | ',' :: rest =>
        match ← limit? isExtended (rest.dropWhile isBlank) with
        | none => failAt ((rest.dropWhile isBlank).drop 1) "unexpected \x60,\x27"
        | some (limit, rest) => pure (some first, some limit, rest)
      | _ => pure (some first, none, rest)
  let isRegex : Option Limit → Bool
    | some (.address (.found _)) => true
    | _ => false
  let cs := cs.dropWhile isBlank
  match first with
  | some (.line 0) =>
    if !isRegex limit then failAt (cs.drop 1) "invalid usage of line address 0"
  | _ => pure ()
  match cs with
  | '!' :: rest =>
    let rest := rest.dropWhile isBlank
    if rest.head? = some '!' then failAt rest.tail "multiple \x60!\x27s"
    return (⟨first, limit, true⟩, rest)
  | cs => return (⟨first, limit, false⟩, cs)

/-! ### Operands -/

/-- What follows the end of a command. A brace or a comment can stand there at once. -/
def endOfCommand (cs : List Char) : Except Fault (List Char) :=
  match cs.dropWhile isBlank with
  | [] => .ok []
  | c :: rest =>
    if c = '\n' ∨ c = ';' then .ok rest
    else if c = '}' ∨ c = '#' then .ok (c :: rest)
    else failAt rest "extra characters after command"

/-- The rest of a line, and what follows the line. -/
def restOfLine (cs : List Char) : List Char × List Char :=
  let line := cs.takeWhile (· ≠ '\n')
  (line, (cs.drop line.length).drop 1)

/-- The text of a command up to the end of a line that no backslash continues. -/
def textLines : List Char → List Char × List Char
  | [] => ([], [])
  | ['\\'] => ([], [])
  | '\\' :: c :: cs =>
    let (text, rest) := textLines cs
    ((Regex.control? [c]).getD [c] ++ text, rest)
  | '\n' :: cs => (['\n'], cs)
  | c :: cs =>
    let (text, rest) := textLines cs
    (c :: text, rest)

/-- The text that a command prints, with an end behind it, and what follows. It can begin on the next
line, behind a backslash; a backslash in front keeps the blanks behind it. -/
def commandText (cs : List Char) : Except Fault (List Char × List Char) := do
  let wholeLines (text : List Char) : List Char :=
    if text = [] ∨ text.getLast? = some '\n' then text else text ++ ['\n']
  match cs.dropWhile isBlank with
  | [] => failAt [] "expected \\ after \x60a\x27, \x60c\x27 or \x60i\x27"
  | '\\' :: rest =>
    match rest.dropWhile isBlank, rest with
    | ['\n'], _ => return (['\n'], [])
    | '\n' :: inner, _ =>
      let (text, rest) := textLines inner
      return (wholeLines text, rest)
    | _, '\\' :: _ =>
      let (text, rest) := textLines rest
      return (wholeLines text, rest)
    | _, _ =>
      let (text, after) := textLines (rest.drop 1)
      return (wholeLines (rest.take 1 ++ text), after)
  | rest =>
    let (text, rest) := textLines rest
    return (wholeLines text, rest)

/-- The name of a mark, and what follows it. -/
def labelName (cs : List Char) : Octets × List Char :=
  let cs := cs.dropWhile isBlank
  let name := cs.takeWhile fun c => !isSpaceOctet c && c ≠ ';'
  (String.ofList name, cs.drop name.length)

/-- The parts of what takes the place of a match; `fuel` bounds their number. -/
def partsOf : (fuel : Nat) → List Char → List Part
  | 0, _ | _, [] => []
  | fuel + 1, '&' :: cs => .group 0 :: partsOf fuel cs
  | fuel + 1, '\\' :: c :: cs =>
    if c.isDigit then .group (c.toNat - 48) :: partsOf fuel cs
    else if "LUluE".toList.contains c then .shift c :: partsOf fuel cs
    else .text ((Regex.control? [c]).getD [c]) :: partsOf fuel cs
  | fuel + 1, c :: cs => .text [c] :: partsOf fuel cs

/-- What the letters behind a substitution ask for. -/
structure Flags where
  /-- Whether all matches are replaced. -/
  isGlobal : Bool
  /-- Whether the line is printed. -/
  prints : Bool
  /-- The number of the first match that is replaced. -/
  first : Option Nat
  /-- Whether case does not matter. -/
  ignoresCase : Bool
  /-- Whether the lines in the text count. -/
  hasLines : Bool
  /-- The file to which the line is written. -/
  file : Option Octets

/-- The flags in front, and what follows the command; `fuel` bounds their number. -/
def flags : (fuel : Nat) → Flags → List Char → Except Fault (Flags × List Char)
  | 0, given, cs => .ok (given, cs)
  | fuel + 1, given, cs => do
    match cs with
    | [] => return (given, [])
    | 'g' :: rest =>
      if given.isGlobal then failAt rest "multiple \x60g\x27 options to \x60s\x27 command"
      flags fuel { given with isGlobal := true } rest
    | 'p' :: rest =>
      if given.prints then failAt rest "multiple \x60p\x27 options to \x60s\x27 command"
      flags fuel { given with prints := true } rest
    | 'i' :: rest | 'I' :: rest => flags fuel { given with ignoresCase := true } rest
    | 'm' :: rest | 'M' :: rest => flags fuel { given with hasLines := true } rest
    | 'w' :: rest =>
      let (path, after) := restOfLine (rest.dropWhile isBlank)
      if path = [] then failAt rest "missing filename in r/R/w/W commands"
      return ({ given with file := some (String.ofList path) }, after)
    | c :: rest =>
      if c.isDigit then
        let (first, after) := number? cs
        if given.first.isSome then
          failAt after "multiple number options to \x60s\x27 command"
        if first = some 0 then
          failAt after "number option to \x60s\x27 command may not be zero"
        flags fuel { given with first } after
      else if isBlank c then flags fuel given rest
      else if c = '\n' ∨ c = ';' then return (given, rest)
      else if c = '}' ∨ c = '#' then return (given, cs)
      else failAt rest "unknown option to \x60s\x27"

/-- The greatest number of a group in parts. -/
def greatestGroup (parts : List Part) : Nat :=
  parts.foldl (fun n => fun | .group m => max n m | _ => n) 0

/-- A substitution behind its letter, and what follows it. -/
def substitution (isExtended : Bool) (cs : List Char) :
    Except Fault (Substitution × List Char) := do
  let unterminated {α : Type} (cs : List Char) : Except Fault α :=
    failAt (cs.dropWhile (· ≠ '\n')) "unterminated \x60s\x27 command"
  match cs with
  | [] => unterminated []
  | delimiter :: rest =>
    match delimited? delimiter true (rest.length + 1) rest with
    | none => unterminated rest
    | some (text, rest) =>
      match delimited? delimiter false (rest.length + 1) rest with
      | none => unterminated rest
      | some (replacement, rest) =>
        let (given, after) ← flags (rest.length + 1) ⟨false, false, none, false, false, none⟩ rest
        let (pattern, groups) ←
          pattern isExtended given.ignoresCase given.hasLines text after
        let parts := partsOf (replacement.length + 1) replacement
        if groups < greatestGroup parts then
          failAt after ("invalid reference \\" ++ toString (greatestGroup parts) ++
            " on \x60s\x27 command\x27s RHS")
        return (⟨pattern, parts, given.first.getD 1, given.isGlobal, given.prints, given.file⟩,
          after)

/-- The letters of a list of letters to exchange, with its escapes replaced. -/
def exchangeLettersOf : List Regex.Letter → List Regex.Letter
  | [] => []
  | [letter] => [letter]
  | a :: b :: letters =>
    if a = ['\\'] then (Regex.control? b).getD b :: exchangeLettersOf letters
    else a :: exchangeLettersOf (b :: letters)

/-- The letters to exchange behind their command, and what follows. -/
def letterPairs (cs : List Char) :
    Except Fault (List (Regex.Letter × Regex.Letter) × List Char) := do
  match cs with
  | [] => failAt [] "unterminated \x60y\x27 command"
  | delimiter :: rest =>
    match delimited? delimiter false (rest.length + 1) rest with
    | none => failAt (rest.dropWhile (· ≠ '\n')) "unterminated \x60y\x27 command"
    | some (first, rest) =>
      match delimited? delimiter false (rest.length + 1) rest with
      | none => failAt (rest.dropWhile (· ≠ '\n')) "unterminated \x60y\x27 command"
      | some (second, rest) =>
        let first := exchangeLettersOf (Regex.lettersOf first)
        let second := exchangeLettersOf (Regex.lettersOf second)
        if first.length ≠ second.length then
          failAt rest "strings for \x60y\x27 command are different lengths"
        return (first.zip second, ← endOfCommand rest)

/-! ### Commands -/

/-- The acts that are written with one letter and nothing else. -/
def plainAct? : Char → Option Act
  | 'd' => some .delete
  | 'D' => some .deleteFirst
  | 'p' => some .print
  | 'P' => some .printFirst
  | 'n' => some .next
  | 'N' => some .join
  | 'h' => some .hold
  | 'H' => some .holdMore
  | 'g' => some .get
  | 'G' => some .getMore
  | 'x' => some .exchange
  | '=' => some .number
  | 'z' => some .clear
  | 'F' => some .name
  | _ => none

/-- The act of a command other than a block, by its letter, and what follows it. -/
def act (isExtended : Bool) (selector : Selector) (letter : Char) (cs : List Char) :
    Except Fault (Act × List Char) := do
  let withText (make : List Char → Act) : Except Fault (Act × List Char) := do
    let (text, rest) ← commandText cs
    return (make text, rest)
  let withLabel (make : Octets → Act) : Except Fault (Act × List Char) := do
    let (name, rest) := labelName cs
    return (make name, ← endOfCommand rest)
  let withPath (make : Octets → Act) : Except Fault (Act × List Char) := do
    let (path, rest) := restOfLine (cs.dropWhile isBlank)
    if path = [] then failAt cs "missing filename in r/R/w/W commands"
    return (make (String.ofList path), rest)
  let withNumber (make : Option Nat → Act) : Except Fault (Act × List Char) := do
    let (number, rest) := number? (cs.dropWhile isBlank)
    return (make number, ← endOfCommand rest)
  match letter with
  | 's' =>
    let (substitution, rest) ← substitution isExtended cs
    return (.substitute substitution, rest)
  | 'y' =>
    let (pairs, rest) ← letterPairs cs
    return (.exchangeLetters pairs, rest)
  | 'a' => withText .append
  | 'i' => withText .insert
  | 'c' => withText .change
  | ':' =>
    if selector.first.isSome then failAt cs ": doesn\x27t want any addresses"
    let (name, rest) := labelName cs
    if name = "" then failAt cs "\":\" lacks a label"
    return (.label name, rest)
  | 'b' => withLabel .branch
  | 't' => withLabel .branchIf
  | 'T' => withLabel .branchUnless
  | 'r' => withPath .readFile
  | 'w' => withPath (.write false)
  | 'W' => withPath (.write true)
  | 'q' | 'Q' =>
    if selector.limit.isSome then failAt cs "command only uses one address"
    withNumber fun code => .quit (letter = 'q') (code.getD 0)
  | 'l' => withNumber .list
  | letter =>
    match plainAct? letter with
    | some act => return (act, ← endOfCommand cs)
    | none => failAt cs ("unknown command: \x60" ++ letter.toString ++ "\x27")

/-- The commands of a script up to the end of a block, and what follows; `fuel` bounds their
number. -/
def commands (isExtended : Bool) :
    (fuel depth : Nat) → List Char → Except Fault (List Command × List Char)
  | 0, _, cs => .ok ([], cs)
  | fuel + 1, depth, cs => do
    match cs.dropWhile fun c => isSpaceOctet c || c = ';' with
    | [] => if depth = 0 then return ([], []) else throw ⟨"unmatched \x60\x7b\x27", none⟩
    | c :: rest =>
      let (selector, body) ← selector isExtended (c :: rest)
      match body with
      | [] => failAt [] "missing command"
      | '#' :: rest =>
        if selector.first.isSome then failAt rest "comments don\x27t accept any addresses"
        commands isExtended fuel depth (rest.dropWhile (· ≠ '\n'))
      | '}' :: rest =>
        if depth = 0 then failAt rest "unexpected \x60\x7d\x27"
        if selector.first.isSome then failAt rest "\x7d doesn\x27t want any addresses"
        return ([], ← endOfCommand rest)
      | '{' :: rest =>
        let (inner, rest) ← commands isExtended fuel (depth + 1) rest
        let (more, rest) ← commands isExtended fuel depth rest
        return (⟨selector, .block inner.length⟩ :: inner ++ more, rest)
      | letter :: rest =>
        let (act, rest) ← act isExtended selector letter rest
        let (more, rest) ← commands isExtended fuel depth rest
        return (⟨selector, act⟩ :: more, rest)

/-- The commands of a script. -/
def read (isExtended : Bool) (script : List Char) : Except Fault (List Command) := do
  return (← commands isExtended (script.length + 1) 0 script).1

end Editor

end Toolbox

end SnapshotSuite
