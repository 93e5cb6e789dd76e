import SnapshotSuite.Toolbox.Lines
import SnapshotSuite.Toolbox.Options
import SnapshotSuite.Toolbox.Regex.Reader
/-!
# Selecting lines

Prints the lines of files that match one of some expressions, or that match none, perhaps with their
neighbours. Instead of the lines the tool can print their number, what matches in them, or the names
of the files.
-/

namespace SnapshotSuite

namespace Toolbox

namespace Selection

/-- The options. -/
def options : List ToolOption :=
  [⟨'E', "extended-regexp", false⟩, ⟨'F', "fixed-strings", false⟩, ⟨'G', "basic-regexp", false⟩,
    ⟨'i', "ignore-case", false⟩, ⟨'y', "", false⟩, ⟨'v', "invert-match", false⟩,
    ⟨'n', "line-number", false⟩, ⟨'c', "count", false⟩, ⟨'l', "files-with-matches", false⟩,
    ⟨'L', "files-without-match", false⟩, ⟨'q', "quiet", false⟩, ⟨'q', "silent", false⟩,
    ⟨'s', "no-messages", false⟩, ⟨'o', "only-matching", false⟩, ⟨'w', "word-regexp", false⟩,
    ⟨'x', "line-regexp", false⟩, ⟨'e', "regexp", true⟩, ⟨'f', "file", true⟩,
    ⟨'h', "no-filename", false⟩, ⟨'H', "with-filename", false⟩, ⟨'m', "max-count", true⟩,
    ⟨'A', "after-context", true⟩, ⟨'B', "before-context", true⟩, ⟨'C', "context", true⟩,
    ⟨'a', "text", false⟩]

/-- The expression that a pattern writes. -/
def regexOf (arguments : Arguments) (pattern : List Char) : Except Octets Regex := do
  let letters := Regex.lettersOf pattern
  let regex ←
    if arguments.has 'F' then pure (letters.foldr (fun letter regex => .seq (.one letter) regex) .empty)
    else return (← Regex.read ⟨arguments.has 'E', false⟩ letters).1
  return if arguments.has 'x' then .seq (.place .start) (.seq regex (.place .stop)) else regex

/-- What lines are selected by. -/
structure Criterion where
  /-- The expression. -/
  regex : Regex
  /-- Whether case does not matter. -/
  ignoresCase : Bool
  /-- Whether only whole words match. -/
  isWord : Bool
  /-- Whether lines that do not match are selected. -/
  isInverted : Bool

/-- The first match in a line from a position on. -/
def Criterion.find? (criterion : Criterion) (line : List Char) (start : Nat) :
    Option Regex.Match :=
  let search : Regex.Search := ⟨(Regex.lettersOf line).toArray, criterion.ignoresCase, false⟩
  if !criterion.isWord then criterion.regex.find? search start
  else
    let isWordAt (position : Nat) : Bool := search.text[position]?.any Regex.isWordLetter
    (List.range (search.text.size + 1 - start)).findSome? fun n =>
      let first := start + n
      if first ≠ 0 ∧ isWordAt (first - 1) then none
      else
        let ways := Regex.farthestFirst (criterion.regex.ways search ⟨first, []⟩)
        (ways.find? fun way => !isWordAt way.position).map (⟨first, ·⟩)

/-- Whether a line is selected. -/
def Criterion.selects (criterion : Criterion) (line : List Char) : Bool :=
  (criterion.find? line 0).isSome != criterion.isInverted

/-- What matches in a line; `fuel` bounds its length. -/
def Criterion.matchesIn (criterion : Criterion) (line : List Char) :
    (fuel start : Nat) → List (List Char)
  | 0, _ => []
  | fuel + 1, start =>
    match criterion.find? line start with
    | none => []
    | some found =>
      let stop := found.progress.position
      if stop = found.start then criterion.matchesIn line fuel (stop + 1)
      else
        let letters := ((Regex.lettersOf line).take stop).drop found.start
        letters.flatten :: criterion.matchesIn line fuel stop

/-- The first option with a value that is no number, as what is wrong with it. -/
def numberFault? (arguments : Arguments) : Option Octets :=
  arguments.options.findSome? fun option =>
    if isNumber option.value then none
    else if option.letter = 'm' then some "invalid max count"
    else if "ABC".toList.contains option.letter then
      some (option.value ++ ": invalid context length argument")
    else none

/-- The number that an option has. -/
def number? (arguments : Arguments) (letter : Char) : Option Nat :=
  (arguments.value? letter).map fun value => digitsValue value.toList

/-- A line of a file. -/
structure Line where
  /-- Its number. -/
  number : Nat
  /-- The line. -/
  text : List Char
  /-- Whether it is selected. -/
  isSelected : Bool

/-- The lines of a file; so many can be selected at most. -/
def linesOf (criterion : Criterion) : (number : Nat) → (most : Option Nat) → List (List Char) →
    List Line
  | _, _, [] => []
  | number, most, text :: texts =>
    let isSelected := most ≠ some 0 && criterion.selects text
    ⟨number, text, isSelected⟩ ::
      linesOf criterion (number + 1) (if isSelected then most.map (· - 1) else most) texts

/-- The lines that are selected, and so many before and after each of them. -/
def withContext (before after : Nat) (lines : List Line) : List Line :=
  let numbers := (lines.filter (·.isSelected)).map (·.number)
  lines.filter fun line =>
    numbers.any fun n => n ≤ line.number + before && line.number ≤ n + after

/-- Whether a line has bytes that are no text. -/
def isUnreadable (line : Line) : Bool :=
  line.text.contains '\x00' || (Regex.lettersOf line.text).any (!Regex.isCharacter ·)

/-- What has been printed and found so far. -/
structure Progress where
  /-- Whether something was selected. -/
  hasFound : Bool
  /-- Whether something could not be read. -/
  hasFailed : Bool
  /-- Whether a line has been printed. -/
  hasPrinted : Bool

/-- Prints a line, behind its number and the name of its file if they are wanted. -/
def printLine (arguments : Arguments) (criterion : Criterion) (label : Octets) (line : Line) :
    Job Unit := do
  let sign := if line.isSelected then ":" else "-"
  let front :=
    (if label = "" then "" else label ++ sign) ++
      if arguments.has 'n' then toString line.number ++ sign else ""
  if arguments.has 'o' then
    if line.isSelected ∧ !criterion.isInverted then
      (criterion.matchesIn line.text (line.text.length + 1) 0).forM fun text =>
        Job.printLine (front ++ String.ofList text)
  else Job.printLine (front ++ String.ofList line.text)

/-- Prints lines up to the first that is no text; lines that do not follow one another are parted if
neighbours are asked for. The number of the last line is known. Says whether all were printed. -/
def printLines (arguments : Arguments) (criterion : Criterion) (label : Octets)
    (hasContext : Bool) : (last : Option Nat) → List Line → Job Bool
  | _, [] => return true
  | last, line :: lines => do
    if isUnreadable line ∧ !arguments.has 'a' then return false
    if hasContext ∧ !arguments.has 'o' ∧ last.any (· + 1 < line.number) then Job.printLine "--"
    printLine arguments criterion label line
    printLines arguments criterion label hasContext (some line.number) lines

/-- Searches one file. -/
def searchFile (name : Octets) (arguments : Arguments) (criterion : Criterion) (hasLabel : Bool)
    (progress : Progress) (file : Octets) : Job Progress := do
  match ← Job.load file with
  | .error error =>
    let shown := if file = "-" then "(standard input)" else file
    if !arguments.has 's' then Job.complain (name ++ ": " ++ shown ++ ": " ++ error.words)
    return { progress with hasFailed := true }
  | .ok bs =>
    let shown := if file = "-" then "(standard input)" else file
    let label := if hasLabel then shown else ""
    let cs := Octets.charsOf bs
    let most := number? arguments 'm'
    let lines := linesOf criterion 1 most (bareLines cs)
    let selected := lines.filter (·.isSelected)
    let progress := { progress with hasFound := progress.hasFound || !selected.isEmpty }
    stop bs selected most
    if arguments.has 'q' then return progress
    else if arguments.has 'l' ∨ arguments.has 'L' then
      if selected.isEmpty = arguments.has 'L' then Job.printLine shown
      return progress
    else if arguments.has 'c' then
      Job.printLine ((if label = "" then "" else label ++ ":") ++ toString selected.length)
      return progress
    else
      let context := number? arguments 'C'
      let before := ((number? arguments 'B').orElse fun _ => context).getD 0
      let after := ((number? arguments 'A').orElse fun _ => context).getD 0
      let hasContext := before ≠ 0 || after ≠ 0
      let shownLines := withContext before after lines
      let isBinary := cs.contains '\x00' && !arguments.has 'a'
      let isComplete ←
        if isBinary then pure selected.isEmpty
        else
          if hasContext ∧ progress.hasPrinted ∧ shownLines.length ≠ 0 then Job.printLine "--"
          printLines arguments criterion label hasContext none shownLines
      if !isComplete then
        Job.complain (name ++ ": " ++ shown ++ ": binary file matches")
      return { progress with hasPrinted := progress.hasPrinted || !shownLines.isEmpty }
where
  /-- Stops reading where everything is known: behind the last line that may be selected, or as soon
  as one is, if only that counts. -/
  stop (bs : Bytes) (selected : List Line) (most : Option Nat) : Job Unit := do
    let isBrief := arguments.has 'q' || arguments.has 'l' || arguments.has 'L'
    match selected.getLast? with
    | none => if most = some 0 then Job.stopReading file true bs
    | some line =>
      if most = some selected.length then
        let lines := (octetLines (Octets.charsOf bs)).drop line.number
        Job.stopReading file false (Octets.bytesOfChars lines.flatten)
      else if isBrief then Job.stopReading file false []

/-- The patterns that the value of an option gives, or the file that it names. -/
def patternsOfOption (option : GivenOption) : Job (Except Octets (List (List Char))) := do
  if option.letter = 'e' then return .ok (option.value.toList.splitOnP (· = '\n'))
  else
    match ← Job.load option.value with
    | .ok bs => return .ok (bareLines (Octets.charsOf bs))
    | .error error => return .error (option.value ++ ": " ++ error.words)

/-- The patterns that options and operands give, with the operands that are left; `none` if there is
none. It fails if a file of patterns cannot be read. -/
def patternsOf (arguments : Arguments) :
    Job (Except Octets (Option (List (List Char) × List Octets))) := do
  let given := arguments.options.filter fun option => option.letter = 'e' || option.letter = 'f'
  match given, arguments.operands with
  | [], [] => return .ok none
  | [], pattern :: files => return .ok (some (pattern.toList.splitOnP (· = '\n'), files))
  | given, files =>
    let patterns ← given.mapM patternsOfOption
    return (patterns.mapM id).map fun patterns => some (patterns.flatten, files)

/-- The usage of the tool. -/
def usage (name : Octets) : Job ExitStatus := do
  Job.complain ("Usage: " ++ name ++ " [OPTION]... PATTERNS [FILE]...")
  complaining 2 ("Try \x27" ++ name ++ " --help\x27 for more information.")

/-- Searches files. -/
def run (name : Octets) (arguments : Arguments) : Job ExitStatus := do
  match numberFault? arguments, ← patternsOf arguments with
  | some complaint, _ | _, .error complaint => complaining 2 (name ++ ": " ++ complaint)
  | none, .ok none => usage name
  | none, .ok (some (patterns, files)) =>
    match patterns.mapM (regexOf arguments) with
    | .error complaint => complaining 2 (name ++ ": " ++ complaint)
    | .ok regexes =>
      let regex? := regexes.foldr (fun regex rest =>
        match rest with
        | none => some regex
        | some rest => some (.either regex rest)) none
      let criterion : Criterion :=
        ⟨regex?.getD (.set false []), arguments.has 'i' || arguments.has 'y', arguments.has 'w',
          arguments.has 'v'⟩
      let files := if files = [] then ["-"] else files
      let hasLabel := (1 < files.length || arguments.has 'H') && !arguments.has 'h'
      let progress ←
        files.foldlM (searchFile name arguments criterion hasLabel) ⟨false, false, false⟩
      if progress.hasFailed ∧ !(arguments.has 'q' && progress.hasFound) then return .code 2
      else return endingWith progress.hasFound

end Selection

/-- Prints the lines of files that match an expression. -/
def grep : Tool := fun name words =>
  match ToolOption.readWords Selection.options false none words with
  | .ok arguments => Selection.run name arguments
  | .error complaint => do
    Job.complain (name ++ ": " ++ complaint)
    Selection.usage name

end Toolbox

end SnapshotSuite
