import SnapshotSuite.Toolbox.Directive
import SnapshotSuite.Toolbox.Escape
import SnapshotSuite.Toolbox.Shell.Builtin.Basic
/-!
# Printing

The shell prints words, and values by a format. Both know other escapes than the tools of the same
names.
-/

namespace SnapshotSuite

namespace Toolbox

namespace Shell

open ShellM

namespace Builtin

/-- Words with their escapes replaced, parted by spaces, up to an escape that ends all output; and
whether there was none. -/
def echoed : List Octets → List Char × Bool
  | [] => ([], true)
  | word :: words =>
    let expansion := expandEscapes .shellWords word
    if expansion.ending.isSome then (expansion.octets, false)
    else
      let (rest, isWhole) := echoed words
      (expansion.octets ++ (if words = [] then [] else ' ' :: rest), isWhole)

/-- Prints words. -/
def echo : Behavior := fun _ _ _ words => do
  let (endsLine, words) :=
    match words with
    | "-n" :: words => (false, words)
    | words => (true, words)
  let (cs, isWhole) := echoed words
  print (String.ofList cs ++ if isWhole && endsLine then "\n" else "")
  return 0

/-! ### Values by a format -/

/-- How far the printing by a format has come. -/
structure Printing where
  /-- The operands that are left. -/
  operands : List Octets
  /-- Whether all operands were right so far. -/
  isRight : Bool
  /-- Whether an operand has ended all output. -/
  isEnded : Bool

namespace Printing

/-- The next operand, and the printing behind it. -/
def next (printing : Printing) : Option Octets × Printing :=
  (printing.operands.head?, { printing with operands := printing.operands.tail })

/-- Complains about an operand that is not a number as a whole. -/
def check (printing : Printing) (operand : Octets) (isPresent isInRange : Bool) (rest : List Char) :
    ShellM Printing := do
  let fault? :=
    if rest ≠ [] then
      some (if isPresent then ": not completely converted" else ": expected numeric value")
    else if isInRange then none
    else some ": Numerical result out of range"
  match fault? with
  | none => return printing
  | some fault =>
    warn (operand ++ fault)
    return { printing with isRight := false }

/-- The number of a character behind a quote. -/
def characterCode? (operand : Octets) : Option Nat :=
  match operand.toList with
  | c :: cs =>
    if c = '"' ∨ c = '\x27' then some ((cs.head?.map Char.toNat).getD 0) else none
  | [] => none

/-- The next operand as a whole number, with a sign or without one. -/
def integer (printing : Printing) (isSigned : Bool) : ShellM (Int × Printing) := do
  match printing.next with
  | (none, printing) => return (0, printing)
  | (some operand, printing) =>
    match characterCode? operand with
    | some code => return (code, printing)
    | none =>
      let numeral := Numeral.read operand.toList
      let (value, isInRange) : Int × Bool :=
        if isSigned then clampSigned numeral.value
        else
          let (value, isInRange) := clampUnsigned numeral.value
          (value, isInRange)
      return (value, ← printing.check operand numeral.isPresent isInRange numeral.rest)

/-- The next operand as a real. -/
def real (printing : Printing) : ShellM (Real × Printing) := do
  match printing.next with
  | (none, printing) => return (.finite false 0 1, printing)
  | (some operand, printing) =>
    match characterCode? operand, Real.read? operand.toList with
    | some code, _ => return (.finite false code 1, printing)
    | none, none => return (.finite false 0 1, ← printing.check operand false true operand.toList)
    | none, some (real, rest) =>
      let nearest := real.nearest .double
      return (nearest, ← printing.check operand true (nearest.isFinite || !real.isFinite) rest)

/-- A width or a precision in front, if there is one, and what follows it. -/
def measure (printing : Printing) (cs : List Char) :
    ShellM (Option Int × List Char × Printing) := do
  match cs with
  | '*' :: cs =>
    let (value, printing) ← printing.integer true
    return (some value, cs, printing)
  | cs =>
    let digits := cs.takeWhile Char.isDigit
    let value := if digits = [] then none else some (digitsValue digits)
    return (value, cs.drop digits.length, printing)

/-- Prints the next operand as a letter asks for it. -/
def printValue (printing : Printing) (directive : Directive) (letter : Char) (source : Octets) :
    ShellM Printing := do
  let show_ (cs : List Char) : ShellM Unit := print (String.ofList cs)
  match letter with
  | 's' =>
    let (operand, printing) := printing.next
    show_ (directive.text (operand.getD "").toList)
    return printing
  | 'b' =>
    let (operand, printing) := printing.next
    let expansion := expandEscapes .shellWords (operand.getD "")
    show_ (directive.text expansion.octets)
    return { printing with isEnded := expansion.ending.isSome }
  | 'c' =>
    let (operand, printing) := printing.next
    show_ ({ directive with precision := none }.text
      [((operand.getD "").toList.head?).getD '\x00'])
    return printing
  | 'd' | 'i' =>
    let (n, printing) ← printing.integer true
    show_ (directive.signed n)
    return printing
  | 'o' | 'u' | 'x' | 'X' =>
    let (n, printing) ← printing.integer false
    show_ (directive.unsigned letter n.toNat)
    return printing
  | _ =>
    if "aAeEfFgG".toList.contains letter then
      let (r, printing) ← printing.real
      show_ (directive.real .double letter r)
      return printing
    else fail (source ++ ": invalid directive")

/-- Prints what a conversion asks for, and gives what follows it in the format. -/
def conversion (printing : Printing) (cs : List Char) : ShellM (List Char × Printing) := do
  let flags := cs.takeWhile "#-+ 0".toList.contains
  let (width, rest, printing) ← printing.measure (cs.drop flags.length)
  let (precision, rest, printing) ←
    match rest with
    | '.' :: rest => do
      let (precision, rest, printing) ← printing.measure rest
      pure (some (precision.getD 0), rest, printing)
    | rest => pure (none, rest, printing)
  match rest with
  | [] => fail "missing format character"
  | letter :: rest =>
    if [width, precision].any (fun n => n.any (Directive.greatestMeasure < ·.natAbs)) then
      fail "xvsnprintf failed"
    let directive : Directive :=
      ⟨flags, width.getD 0, (precision.filter (0 ≤ ·)).map Int.toNat⟩
    let source := String.ofList ('%' :: cs.take (cs.length - rest.length))
    return (rest, ← printing.printValue directive letter source)

/-- Prints by a format once; `fuel` bounds its length. -/
def once : (fuel : Nat) → Printing → List Char → ShellM Printing
  | 0, printing, _ | _, printing, [] => return printing
  | fuel + 1, printing, c :: cs => do
    if printing.isEnded then return printing
    else if c = '\\' then
      match Escape.read .shellFormat cs with
      | .octets ds rest =>
        print (String.ofList ds)
        once fuel printing rest
      | _ => return printing
    else if c = '%' then
      if cs.head? = some '%' then
        print "%"
        once fuel printing cs.tail
      else
        let (rest, printing) ← printing.conversion cs
        once fuel printing rest
    else
      print c.toString
      once fuel printing cs

/-- Prints by a format until all operands are used, if it uses any. -/
def whole : (fuel : Nat) → Printing → List Char → ShellM Printing
  | 0, printing, _ => return printing
  | fuel + 1, printing, cs => do
    let after ← once cs.length printing cs
    if after.isEnded ∨ after.operands = [] ∨ after.operands.length = printing.operands.length then
      return after
    else whole fuel after cs

end Printing

/-- Prints values by a format. -/
def printf : Behavior := fun _ _ _ words => do
  match ← operands words with
  | [] => fail "usage: printf format [arg ...]"
  | format :: operands =>
    let printing ← Printing.whole (operands.length + 1) ⟨operands, true, false⟩ format.toList
    return if printing.isRight then 0 else 1

end Builtin

end Shell

end Toolbox

end SnapshotSuite
