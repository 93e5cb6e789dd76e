import SnapshotSuite.Toolbox.Entries
import SnapshotSuite.Toolbox.Lines
import SnapshotSuite.Toolbox.Options
/-!
# Columns of lines

Prints chosen bytes or fields of each line. What is chosen is a list of ranges, counted from one.
-/

namespace SnapshotSuite

namespace Toolbox

namespace Columns

/-- The options. -/
def options : List ToolOption :=
  [⟨'b', "bytes", true⟩, ⟨'c', "characters", true⟩, ⟨'f', "fields", true⟩,
    ⟨'d', "delimiter", true⟩, ⟨'n', "", false⟩, ⟨'s', "only-delimited", false⟩,
    ⟨'\x00', "complement", false⟩, ⟨'\x01', "output-delimiter", true⟩]

/-- A range of numbers; it may go on without end. -/
structure Range where
  /-- The first number. -/
  first : Nat
  /-- The last number. -/
  last : Option Nat
deriving DecidableEq, Repr

/-- Whether a number lies in a range. -/
def Range.contains (range : Range) (n : Nat) : Bool :=
  range.first ≤ n && range.last.all (n ≤ ·)

/-- The range that a word stands for, or what is wrong with it. -/
def range? (isField : Bool) (word : List Char) : Except Octets Range := do
  let noun := if isField then "field value " else "byte/character position "
  let first := word.takeWhile Char.isDigit
  match word.drop first.length with
  | [] =>
    if first = [] then throw "fields are numbered from 1"
    else if digitsValue first = 0 then throw (zero isField)
    else return ⟨digitsValue first, some (digitsValue first)⟩
  | '-' :: rest =>
    let last := rest.takeWhile Char.isDigit
    if rest.contains '-' then throw "invalid field range"
    else if last.length < rest.length then
      throw ("invalid " ++ noun ++ shownWord (String.ofList rest))
    else if first = [] ∧ last = [] then throw "invalid range with no endpoint: -"
    else if first ≠ [] ∧ digitsValue first = 0 then throw (zero isField)
    else if last ≠ [] ∧ digitsValue last < max 1 (digitsValue first) then
      throw "invalid decreasing range"
    else
      return ⟨max 1 (digitsValue first), if last = [] then none else some (digitsValue last)⟩
  | rest => throw ("invalid " ++ noun ++ shownWord (String.ofList rest))
where
  /-- The complaint about the number nought. -/
  zero (isField : Bool) : Octets :=
    if isField then "fields are numbered from 1"
    else "byte/character positions are numbered from 1"

/-- The ranges of a list. -/
def ranges? (isField : Bool) (list : Octets) : Except Octets (List Range) :=
  (list.toList.splitOnP fun c => c = ',' || c = ' ' || c = '\t').mapM (range? isField)

/-- What is chosen of lines. -/
structure Choice where
  /-- The ranges. -/
  ranges : List Range
  /-- Whether what lies outside of them is chosen. -/
  isComplement : Bool
  /-- What parts fields; none if bytes are chosen. -/
  delimiter : Option Char
  /-- What stands between chosen parts. -/
  glue : Option Octets
  /-- Whether lines without fields are left out. -/
  skipsPlain : Bool

/-- Whether the part of a number is chosen. -/
def Choice.chooses (choice : Choice) (n : Nat) : Bool :=
  choice.ranges.any (·.contains n) != choice.isComplement

/-- The chosen parts of a list. -/
def Choice.pick {α : Type} (choice : Choice) (parts : List α) : List α :=
  (parts.zipIdx.filter fun part => choice.chooses (part.2 + 1)).map (·.1)

/-- Chosen bytes, in runs that lie side by side. -/
def Choice.runs (choice : Choice) : (n : Nat) → List Char → List (List Char)
  | _, [] => []
  | n, c :: cs =>
    if !choice.chooses n then choice.runs (n + 1) cs
    else
      match choice.runs (n + 1) cs with
      | [] => [[c]]
      | run :: runs =>
        let isBroken := !choice.chooses (n + 1) ||
          (!choice.isComplement && choice.ranges.any (·.first = n + 1) &&
            !choice.ranges.any fun range => range.contains n && range.contains (n + 1))
        if isBroken then [c] :: run :: runs else (c :: run) :: runs

/-- The line for a line, if there is one. -/
def Choice.line? (choice : Choice) (line : List Char) : Option (List Char) :=
  match choice.delimiter with
  | none => some (((choice.glue.getD "").toList).intercalate (choice.runs 1 line))
  | some delimiter =>
    if !line.contains delimiter then if choice.skipsPlain then none else some line
    else
      let fields := choice.pick (line.splitOnP (· = delimiter))
      some ((((choice.glue.map String.toList).getD [delimiter])).intercalate fields)

/-- The choice that options ask for, or what is wrong with them. -/
def choice? (arguments : Arguments) : Except Octets Choice := do
  let lists := arguments.options.filter fun option => "bcf".toList.contains option.letter
  match lists with
  | [] => throw "you must specify a list of bytes, characters, or fields"
  | [list] =>
    let isField := list.letter = 'f'
    if !isField ∧ arguments.has 'd' then
      throw "an input delimiter may be specified only when operating on fields"
    if !isField ∧ arguments.has 's' then
      throw "suppressing non-delimited lines makes sense\n\tonly when operating on fields"
    let delimiter ←
      match (arguments.value? 'd').map String.toList with
      | none => pure '\t'
      | some [] => pure '\x00'
      | some [c] => pure c
      | some _ => throw "the delimiter must be a single character"
    return ⟨← ranges? isField list.value, arguments.has '\x00',
      if isField then some delimiter else none, arguments.value? '\x01', arguments.has 's'⟩
  | _ => throw "only one list may be specified"

end Columns

open Columns in
/-- Prints chosen bytes or fields of lines. -/
def cut : Tool := withOptions Columns.options fun name arguments => do
  match choice? arguments with
  | .error complaint => misused 1 name complaint
  | .ok choice =>
    let files := if arguments.operands = [] then ["-"] else arguments.operands
    forOperands files fun file => do
      match ← Job.load file with
      | .error error =>
        complainAbout name file error
        return false
      | .ok bs =>
        let lines := (bareLines (Octets.charsOf bs)).filterMap choice.line?
        Job.print (String.ofList (joinLines lines))
        return true

end Toolbox

end SnapshotSuite
