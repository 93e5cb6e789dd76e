import SnapshotSuite.Toolbox.Options
import SnapshotSuite.Toolbox.Shell.Redirecting
/-!
# Commands of the shell itself

What these commands share: how they are called, and how they read options and numbers.
-/

namespace SnapshotSuite

namespace Toolbox

namespace Shell

open ShellM

/-- A command of the shell itself: what it does, called by a name with words, and its status. -/
abbrev Behavior := Runner → Mode → (name : Octets) → (words : List Octets) → ShellM Nat

/-- A command of the shell itself, with its name. -/
structure Builtin where
  /-- Its name. -/
  name : Octets
  /-- Whether its failure is the failure of the shell. -/
  isSpecial : Bool
  /-- Whether its words can be assignments. -/
  takesAssignments : Bool
  /-- What it does. -/
  run : Behavior

namespace Builtin

/-- A command of no special rank. -/
def ordinary (name : Octets) (run : Behavior) : Builtin :=
  ⟨name, false, false, run⟩

/-- A command whose failure is the failure of the shell. -/
def special (name : Octets) (run : Behavior) : Builtin :=
  ⟨name, true, false, run⟩

/-- A special command whose words can be assignments. -/
def assigning (name : Octets) (run : Behavior) : Builtin :=
  ⟨name, true, true, run⟩

/-- The greatest number that commands take. -/
def greatestNumber : Int := 0x7FFFFFFF

/-- The number that a word writes. -/
def number (word : Octets) : ShellM Nat := do
  let numeral := Numeral.readDecimal word.toList
  if numeral.isPresent ∧ numeral.rest.all isSpaceOctet ∧ 0 ≤ numeral.value ∧
      numeral.value ≤ greatestNumber then
    return numeral.value.toNat
  else fail ("Illegal number: " ++ word)

/-- The number that the first word writes, or another one if there is no word. -/
def numberOr (default : Nat) : List Octets → ShellM Nat
  | [] => return default
  | word :: _ => number word

/-- The options in a word, and the one whose value has to follow. -/
def readLetters (known : List (Char × Bool)) :
    List Char → ShellM (List GivenOption × Option Char)
  | [] => return ([], none)
  | c :: cs => do
    match known.lookup c with
    | none => fail ("Illegal option -" ++ c.toString)
    | some false =>
      let (given, awaited) ← readLetters known cs
      return (⟨c, ""⟩ :: given, awaited)
    | some true =>
      if cs = [] then return ([], some c) else return ([⟨c, String.ofList cs⟩], none)

/-- Parts words into options, each with whether it has a value, and the others. -/
def readOptions (known : List (Char × Bool)) : List Octets → ShellM Arguments
  | [] => return ⟨[], []⟩
  | word :: words => do
    match word.toList with
    | ['-', '-'] => return ⟨[], words⟩
    | '-' :: c :: cs =>
      let (given, awaited) ← readLetters known (c :: cs)
      match awaited, words with
      | none, words =>
        let arguments ← readOptions known words
        return { arguments with options := given ++ arguments.options }
      | some letter, [] => fail ("No arg for -" ++ letter.toString ++ " option")
      | some letter, value :: words =>
        let arguments ← readOptions known words
        return { arguments with options := given ++ ⟨letter, value⟩ :: arguments.options }
    | _ => return ⟨[], word :: words⟩

/-- The words behind an end of options. -/
def operands (words : List Octets) : ShellM (List Octets) := do
  return (← readOptions [] words).operands

/-- The text with all in single quotes but the single quotes, which stand in double ones; `fuel`
bounds its length. -/
def quotedWithin : (fuel : Nat) → List Char → List Char
  | 0, _ => []
  | fuel + 1, cs =>
    let front := cs.takeWhile (· ≠ '\x27')
    let quotes := (cs.drop front.length).takeWhile (· = '\x27')
    let rest := cs.drop (front.length + quotes.length)
    '\x27' :: front ++ '\x27' ::
      (if quotes = [] then [] else '"' :: quotes ++ ['"']) ++
      (if rest = [] then [] else quotedWithin fuel rest)

/-- The text in quotes, as the shell shows values. -/
def quoted (s : Octets) : Octets :=
  String.ofList (quotedWithin (s.length + 1) s.toList)

end Builtin

end Shell

end Toolbox

end SnapshotSuite
