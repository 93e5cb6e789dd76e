import SnapshotSuite.Toolbox.Entries
import SnapshotSuite.Toolbox.Lines
import SnapshotSuite.Toolbox.Options
/-!
# Handling whole streams

Copies what is read to several files, or turns it round: the lines in a file or the characters in a
line. Counts up to a number.
-/

namespace SnapshotSuite

namespace Toolbox

/-- Prints what it reads, and writes it to files. -/
def tee : Tool := withOptions
    [⟨'a', "append", false⟩, ⟨'i', "ignore-interrupts", false⟩] fun name arguments => do
  match ← Job.readAll 0 with
  | .error error => complaining 1 (name ++ ": read error: " ++ error.words)
  | .ok bs =>
    Job.printBytes bs
    forOperands arguments.operands fun file => do
      match ← Job.store file (if arguments.has 'a' then .appending else .writing) bs with
      | .ok () => return true
      | .error error =>
        complainAbout name file error
        return false

/-- Prints what a function makes of each file. -/
def filtering (complain : (name file : Octets) → SystemError → Job Unit)
    (function : List Char → List Char) : Tool :=
  withOptions [] fun name arguments =>
    forOperands (if arguments.operands = [] then ["-"] else arguments.operands) fun file => do
      match ← Job.load file with
      | .ok bs =>
        Job.print (String.ofList (function (Octets.charsOf bs)))
        return true
      | .error error =>
        complain name file error
        return false

/-- Prints the lines of files, the last one first. -/
def tac : Tool :=
  filtering
    (fun name file error =>
      if error = .access .isDirectory then
        Job.complain (name ++ ": " ++ shownFile file ++ ": read error: " ++
          SystemError.invalid.words)
      else
        Job.complain (name ++ ": failed to open " ++ shellQuotedAlways file ++ " for reading: " ++
          error.words))
    fun cs => (octetLines cs).reverse.flatten

/-- Prints lines with their characters in reverse order. -/
def rev : Tool :=
  filtering
    (fun name file error => Job.complain (name ++ ": cannot open " ++ file ++ ": " ++ error.words))
    fun cs =>
      (octetLines cs).flatMap fun line =>
        let glyphs := (Glyph.all (withoutEnd line)).reverse
        glyphs.flatMap Glyph.octets ++ line.drop (withoutEnd line).length

/-! ### Counting up -/

namespace Series

/-- The whole number that a word writes. -/
def integer? (word : Octets) : Option Int :=
  match word.toList with
  | '-' :: cs => if isNumber (String.ofList cs) then some (-digitsValue cs) else none
  | '+' :: cs => if isNumber (String.ofList cs) then some (digitsValue cs) else none
  | cs => if isNumber word then some (digitsValue cs) else none

/-- The numbers from a first to a last one in steps. -/
def numbers (first step last : Int) : List Int :=
  let count := if step = 0 then 0 else (last - first) / step + 1
  (List.range count.toNat).map fun (n : Nat) => first + step * n

/-- A number in digits, at least so many characters. -/
def shown (width : Nat) (n : Int) : Octets :=
  let digits := toString n.natAbs
  let sign := if n < 0 then "-" else ""
  sign ++ String.ofList (List.replicate (width - sign.length - digits.length) '0') ++ digits

end Series

open Series in
/-- Prints the numbers up to a last one. -/
def seq : Tool := fun name words =>
  -- a negative number is no option
  let front := words.takeWhile fun word => word.toList.head? ≠ some '-' || (integer? word).isNone
  let words :=
    if front.contains "--" ∨ front.length = words.length then words
    else front ++ "--" :: words.drop front.length
  withOptions
    [⟨'s', "separator", true⟩, ⟨'w', "equal-width", false⟩] (fun name arguments => do
    match arguments.operands.find? fun word => (integer? word).isNone with
    | some wrong => misused 1 name ("invalid floating point argument: " ++ shownWord wrong)
    | none =>
      match arguments.operands.filterMap integer? with
      | [] => misused 1 name "missing operand"
      | _ :: _ :: _ :: _ :: _ =>
        misused 1 name ("extra operand " ++ shownWord ((arguments.operands[3]?).getD ""))
      | values =>
        let first := if values.length = 1 then 1 else values.head?.getD 1
        let last := values.getLast?.getD 1
        let step := if values.length = 3 then (values[1]?).getD 1 else 1
        if step = 0 then
          misused 1 name ("invalid Zero increment value: " ++
            shownWord ((arguments.operands[1]?).getD ""))
        else
          let width :=
            if arguments.has 'w' then max (shown 0 first).length (shown 0 last).length else 0
          let texts := (numbers first step last).map (shown width)
          unless texts = [] do
            Job.printLine (((arguments.value? 's').getD "\n").intercalate texts)
          return .code 0) name words

end Toolbox

end SnapshotSuite
