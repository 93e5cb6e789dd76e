import SnapshotSuite.Toolbox.Lines
import SnapshotSuite.Toolbox.Numeral
import SnapshotSuite.Toolbox.Options
/-!
# Beginnings and endings of files

Prints so many of the first or the last lines or bytes of files, or all but so many.
-/

namespace SnapshotSuite

namespace Toolbox

namespace Extent

/-- What part of a file is printed. -/
structure Share where
  /-- Whether bytes are counted, and not lines. -/
  inBytes : Bool
  /-- Whether the count is of what is left out. -/
  isRest : Bool
  /-- The count. -/
  count : Nat
deriving DecidableEq, Repr

/-- The first units, or all but the last ones. -/
def Share.first {α : Type} (share : Share) (units : List α) : List α :=
  if share.isRest then units.take (units.length - share.count) else units.take share.count

/-- The last units, or all from one on. -/
def Share.last {α : Type} (share : Share) (units : List α) : List α :=
  if share.isRest then units.drop (share.count - 1)
  else units.drop (units.length - share.count)

/-- A part of a text, taken from its units. -/
def Share.take (share : Share) (isEnding : Bool) (cs : List Char) : List Char :=
  if share.inBytes then if isEnding then share.last cs else share.first cs
  else
    let lines := octetLines cs
    (if isEnding then share.last lines else share.first lines).flatten

/-- The factor that an ending of a number stands for. -/
def factor? : List Char → Option Nat
  | [] => some 1
  | ['b'] => some 512
  | ['k', 'B'] | ['K', 'B'] => some 1000
  | ['k'] | ['K'] | ['K', 'i', 'B'] => some 1024
  | ['M', 'B'] => some 1000000
  | ['m'] | ['M'] | ['M', 'i', 'B'] => some 1048576
  | _ => none

/-- The number that a word writes, with a factor behind it. -/
def number? (cs : List Char) : Option Nat :=
  let digits := cs.takeWhile Char.isDigit
  if digits = [] then none
  else (factor? (cs.drop digits.length)).map (digitsValue digits * ·)

/-- The share that the value of an option asks for; a sign makes it one of the rest. -/
def share? (isEnding inBytes : Bool) (value : Octets) : Option Share :=
  match value.toList with
  | '-' :: cs => (number? cs).map (⟨inBytes, !isEnding, ·⟩)
  | '+' :: cs => (number? cs).map (⟨inBytes, isEnding, ·⟩)
  | cs => (number? cs).map (⟨inBytes, false, ·⟩)

/-- The options. -/
def options : List ToolOption :=
  [⟨'n', "lines", true⟩, ⟨'c', "bytes", true⟩, ⟨'q', "quiet", false⟩, ⟨'q', "silent", false⟩,
    ⟨'v', "verbose", false⟩, ⟨'f', "follow", false⟩]

/-- The words with an option of digits, if it stands first, written out. -/
def withLetters (isEnding : Bool) : List Octets → List Octets
  | [] => []
  | word :: words =>
    let option (sign : List Char) (cs : List Char) : List Octets :=
      let digits := cs.takeWhile Char.isDigit
      let letter :=
        match cs.drop digits.length with
        | ['c'] => "-c"
        | _ => "-n"
      letter :: String.ofList (sign ++ digits) :: words
    match word.toList with
    | '-' :: c :: cs => if c.isDigit then option [] (c :: cs) else word :: words
    | '+' :: c :: cs =>
      if c.isDigit ∧ isEnding then option ['+'] (c :: cs) else word :: words
    | _ => word :: words

/-- The heading of a file among others. -/
def heading (isFirst : Bool) (file : Octets) : Octets :=
  (if isFirst then "" else "\n") ++ "==> " ++
    (if file = "-" then "standard input" else file) ++ " <==\n"

/-- The complaint about a file that cannot be used. -/
def complain (name file : Octets) (error : SystemError) : Job Unit :=
  let file := shellQuotedAlways (if file = "-" then "standard input" else file)
  if error = .access .isDirectory then
    Job.complain (name ++ ": error reading " ++ file ++ ": " ++ error.words)
  else Job.complain (name ++ ": cannot open " ++ file ++ " for reading: " ++ error.words)

/-- Prints a part of one file. -/
def printFile (name : Octets) (isEnding hasHeadings : Bool) (share : Share)
    (state : Bool × Bool) (file : Octets) : Job (Bool × Bool) := do
  let (isFirst, isSuccess) := state
  match ← Job.load file with
  | .ok bs =>
    if hasHeadings then Job.print (heading isFirst file)
    let part := Octets.bytesOfChars (share.take isEnding (Octets.charsOf bs))
    Job.printBytes part
    if !isEnding ∧ (share.isRest ∨ part.length < bs.length) then
      let isExact := !share.isRest && (share.inBytes || share.count = 0)
      Job.stopReading file isExact (bs.drop part.length)
    return (false, isSuccess)
  | .error error =>
    if hasHeadings ∧ error = .access .isDirectory then Job.print (heading isFirst file)
    complain name file error
    return (isFirst && error ≠ .access .isDirectory, false)

/-- Prints parts of files. -/
def tool (isEnding : Bool) : Tool := fun name words =>
  withOptions options (fun name arguments => do
    let asked := arguments.options.filter fun option => option.letter = 'n' || option.letter = 'c'
    let option := asked.getLast?.getD ⟨'n', "10"⟩
    let inBytes := option.letter = 'c'
    match share? isEnding inBytes option.value with
    | none =>
      complaining 1 (name ++ ": invalid number of " ++ (if inBytes then "bytes" else "lines") ++
        ": " ++ shownWord option.value)
    | some share =>
      let files := if arguments.operands = [] then ["-"] else arguments.operands
      let hasHeadings :=
        arguments.has 'v' || (1 < files.length && !arguments.has 'q')
      let (_, isSuccess) ←
        files.foldlM (printFile name isEnding hasHeadings share) (true, true)
      return endingWith isSuccess) name (withLetters isEnding words)

end Extent

/-- Prints the first lines or bytes of files. -/
def head : Tool := Extent.tool false

/-- Prints the last lines or bytes of files. -/
def tail : Tool := Extent.tool true

end Toolbox

end SnapshotSuite
