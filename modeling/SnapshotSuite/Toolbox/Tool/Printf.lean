import SnapshotSuite.Toolbox.Directive
import SnapshotSuite.Toolbox.Escape
import SnapshotSuite.Toolbox.Options
/-!
# Printing by a format

A format is used again and again until it has used up all operands. What is missing at its end
counts as empty, or as nought. A conversion that cannot be ends all output.
-/

namespace SnapshotSuite

namespace Toolbox

namespace Printf

/-- The letters of conversions. -/
def letters : List Char :=
  "aAcdeEfFgGiosuxX".toList

/-- The letters that do not go with a flag. -/
def excludedBy : Char → List Char
  | '\x27' | 'I' => "aAceEosxX".toList
  | '#' => "cdisu".toList
  | '0' => "cs".toList
  | _ => []

/-- Whether a character is a flag. -/
def isFlag (c : Char) : Bool :=
  "\x27I-+ #0".toList.contains c

/-- What stands for a width or a precision: nothing, digits, or the next operand. -/
inductive Measure where
  /-- Nothing. -/
  | absent
  /-- A number. -/
  | digits (n : Nat)
  /-- The next operand. -/
  | next
deriving DecidableEq, Repr

/-- A width or a precision in front, and how much of the format it takes. -/
def Measure.read (cs : List Char) : Measure × Nat :=
  if cs.head? = some '*' then (.next, 1)
  else
    let ds := cs.takeWhile Char.isDigit
    (if ds = [] then .absent else .digits (digitsValue ds), ds.length)

/-- A conversion before its measures have got their values. -/
structure Sketch where
  /-- The flags. -/
  flags : List Char
  /-- The width. -/
  width : Measure
  /-- The precision, if there is a point. -/
  precision : Option Measure
  /-- The letter. -/
  letter : Option Char
  /-- What of the format has been read. -/
  length : Nat
deriving DecidableEq, Repr

/-- The conversion in front, behind the percent sign. -/
def Sketch.read (cs : List Char) : Sketch :=
  let flags := cs.takeWhile isFlag
  let cs := cs.drop flags.length
  let (width, widthLength) := Measure.read cs
  let cs := cs.drop widthLength
  let (precision, precisionLength) :=
    match cs with
    | '.' :: cs =>
      let (precision, length) := Measure.read cs
      (some precision, length + 1)
    | _ => (none, 0)
  let cs := cs.drop precisionLength
  let sizes := cs.takeWhile "lLhjtz".toList.contains
  let letter := (cs.drop sizes.length).head?
  ⟨flags, width, precision, letter,
    flags.length + widthLength + precisionLength + sizes.length + letter.toList.length⟩

/-- The letters that go with a conversion. -/
def Sketch.allowed (sketch : Sketch) : List Char :=
  let excluded :=
    sketch.flags.flatMap excludedBy ++ if sketch.precision.isSome then ['c'] else []
  letters.filter (!excluded.contains ·)

/-! ### Numbers -/

/-- Whether an operand is a character behind a quote. -/
def quoted? (operand : Octets) : Option (List Char) :=
  match operand.toList with
  | c :: cs => if (c = '"' ∨ c = '\x27') ∧ cs ≠ [] then some cs else none
  | [] => none

/-- The number of the first character, and the octets behind it. -/
def codeOf (cs : List Char) : Int × List Char :=
  match Glyph.all cs with
  | [] => (0, [])
  | glyph :: _ =>
    match Utf8.decode? (Octets.bytesOfChars glyph.octets) with
    | some [c] => (c.toNat, cs.drop glyph.octets.length)
    | _ => ((cs.head?.getD '\x00').toNat, cs.tail)

/-- What is wrong with a number: the range, that it is none, or what stands behind it. -/
def faultOf? (operand : Octets) (isPresent isInRange : Bool) (rest : List Char) : Option Octets :=
  if !isInRange then some (shownWord operand ++ ": Numerical result out of range")
  else if rest = [] then none
  else if isPresent then some (shownWord operand ++ ": value not completely converted")
  else some (shownWord operand ++ ": expected a numeric value")

/-- Complains about an operand and says whether it was all right. -/
def complainOf (name : Octets) (fault : Option Octets) : Job Bool := do
  match fault with
  | some fault =>
    Job.complain (name ++ ": " ++ fault)
    return false
  | none => return true

/-- The number of a character operand, with a warning if more characters follow. -/
def characterValue (name : Octets) (cs : List Char) : Job Int := do
  let (value, rest) := codeOf cs
  if rest ≠ [] then
    Job.complain (name ++ ": warning: " ++ String.ofList rest ++
      ": character(s) following character constant have been ignored")
  return value

/-- The signed number of an operand, and whether it was all right. -/
def signedValue (name operand : Octets) : Job (Int × Bool) := do
  match quoted? operand with
  | some cs => return (← characterValue name cs, true)
  | none =>
    let numeral := Numeral.read operand.toList
    let (value, isInRange) := clampSigned numeral.value
    return (value, ← complainOf name (faultOf? operand numeral.isPresent isInRange numeral.rest))

/-- The number without a sign of an operand, and whether it was all right. -/
def unsignedValue (name operand : Octets) : Job (Nat × Bool) := do
  match quoted? operand with
  | some cs => return ((← characterValue name cs).toNat, true)
  | none =>
    let numeral := Numeral.read operand.toList
    let (value, isInRange) := clampUnsigned numeral.value
    return (value, ← complainOf name (faultOf? operand numeral.isPresent isInRange numeral.rest))

/-- The real of an operand, and whether it was all right. -/
def realValue (name operand : Octets) : Job (Real × Bool) := do
  match quoted? operand with
  | some cs => return (.finite false (← characterValue name cs).toNat 1, true)
  | none =>
    match Real.read? operand.toList with
    | none =>
      return (.finite false 0 1, ← complainOf name (faultOf? operand false true operand.toList))
    | some (real, rest) =>
      let nearest := real.nearest .extended
      let isInRange := nearest.isFinite || !real.isFinite
      return (nearest, ← complainOf name (faultOf? operand true isInRange rest))

/-! ### Conversions -/

/-- The value of a measure, the operands it leaves, and whether they were all right. It fails if the
value is out of range. -/
def Measure.value (name noun : Octets) (least : Int) (operands : List Octets) (measure : Measure) :
    ExceptT Octets Job (Int × List Octets × Bool) := do
  match measure, operands with
  | .absent, _ => return (0, operands, true)
  | .digits n, _ =>
    if Directive.greatestMeasure < n then throw "write error"
    return (n, operands, true)
  | .next, [] => return (0, [], true)
  | .next, operand :: operands =>
    let (value, isRight) ← signedValue name operand
    if value < least ∨ (Directive.greatestMeasure : Int) < value then
      throw ("invalid " ++ noun ++ ": " ++ shownWord operand)
    return (value, operands, isRight)

/-- The layout that a conversion asks for, the operands it leaves, and whether they were all
right. -/
def Sketch.layout (name : Octets) (operands : List Octets) (sketch : Sketch) :
    ExceptT Octets Job (Directive × List Octets × Bool) := do
  let (width, operands, widthIsRight) ←
    sketch.width.value name "field width" (-Directive.greatestMeasure - 1) operands
  match sketch.precision with
  | none => return (⟨sketch.flags, width, none⟩, operands, widthIsRight)
  | some measure =>
    let (n, operands, isRight) ← measure.value name "precision" leastSigned operands
    let precision := if n < 0 then none else some n.toNat
    return (⟨sketch.flags, width, precision⟩, operands, widthIsRight && isRight)

/-- The text of an operand, and whether the operand was all right. -/
def converted (name : Octets) (directive : Directive) (letter : Char) (operand : Octets) :
    Job (List Char × Bool) := do
  match letter with
  | 's' => return (directive.text operand.toList, true)
  | 'c' => return (directive.text [operand.toList.head?.getD '\x00'], true)
  | 'd' | 'i' =>
    let (n, isRight) ← signedValue name operand
    return (directive.signed n, isRight)
  | 'o' | 'u' | 'x' | 'X' =>
    let (n, isRight) ← unsignedValue name operand
    return (directive.unsigned letter n, isRight)
  | _ =>
    let (real, isRight) ← realValue name operand
    return (directive.real .extended letter real, isRight)

/-- How far the printing has come. -/
structure Progress where
  /-- The operands that are left. -/
  operands : List Octets
  /-- Whether all operands were right so far. -/
  isRight : Bool
  /-- How all output ended, if it has. -/
  ended : Option ExitStatus

/-- Ends all output, with a complaint if there is one. -/
def Progress.finish (name : Octets) (progress : Progress) (complaint : Option Octets) :
    Job Progress := do
  match complaint with
  | some complaint =>
    Job.complain (name ++ ": " ++ complaint)
    return { progress with ended := some (.code 1) }
  | none => return { progress with ended := some (.code 0) }

/-- Prints a conversion of the next operand. -/
def printConversion (name : Octets) (sketch : Sketch) (source : List Char)
    (progress : Progress) : Job Progress := do
  match ← (sketch.layout name progress.operands).run,
      sketch.letter.filter sketch.allowed.contains with
  | .error complaint, _ => Progress.finish name progress (some complaint)
  | .ok (_, operands, _), none =>
    Progress.finish name { progress with operands }
      (some ("%" ++ String.ofList (source.take sketch.length) ++
        ": invalid conversion specification"))
  | .ok (directive, operands, layoutIsRight), some letter =>
    let (text, isRight) ← converted name directive letter (operands.head?.getD "")
    Job.print (String.ofList text)
    return ⟨operands.tail, progress.isRight && layoutIsRight && isRight, none⟩

/-- Passes over a format once; `fuel` bounds its length. -/
def passOver (name : Octets) : (fuel : Nat) → List Char → Progress → Job Progress
  | 0, _, progress | _, [], progress => return progress
  | fuel + 1, '%' :: '%' :: cs, progress => do
    Job.print "%"
    passOver name fuel cs progress
  | fuel + 1, '%' :: 'b' :: cs, progress => do
    let expansion := expandEscapes .operand (progress.operands.head?.getD "")
    Job.print (String.ofList expansion.octets)
    let progress := { progress with operands := progress.operands.tail }
    match expansion.ending with
    | some complaint => Progress.finish name progress complaint
    | none => passOver name fuel cs progress
  | fuel + 1, '%' :: 'q' :: cs, progress => do
    Job.print ((progress.operands.head?.map (shellQuoted [])).getD "")
    passOver name fuel cs { progress with operands := progress.operands.tail }
  | fuel + 1, '%' :: cs, progress => do
    let sketch := Sketch.read cs
    let progress ← printConversion name sketch cs progress
    match progress.ended with
    | some _ => return progress
    | none => passOver name fuel (cs.drop sketch.length) progress
  | fuel + 1, '\\' :: cs, progress => do
    match Escape.read .format cs with
    | .octets ds rest =>
      Job.print (String.ofList ds)
      passOver name fuel rest progress
    | .stop => Progress.finish name progress none
    | .fault complaint => Progress.finish name progress (some complaint)
  | fuel + 1, c :: cs, progress => do
    Job.print c.toString
    passOver name fuel cs progress

/-- Passes over a format for as long as it uses operands up; `fuel` bounds their number. -/
def passes (name : Octets) (format : List Char) : (fuel : Nat) → Progress → Job ExitStatus
  | 0, progress => return endingWith progress.isRight
  | fuel + 1, progress => do
    let next ← passOver name format.length format progress
    match next.ended with
    | some status => return status
    | none =>
      if next.operands = [] then return endingWith next.isRight
      else if next.operands.length < progress.operands.length then passes name format fuel next
      else
        Job.complain (name ++ ": warning: ignoring excess arguments, starting with " ++
          shownWord (next.operands.head?.getD ""))
        return endingWith next.isRight

end Printf

/-- Prints a format with operands in the place of its conversions. -/
def printf : Tool := fun name words =>
  match if words.head? = some "--" then words.tail else words with
  | [] => misused 1 name "missing operand"
  | format :: operands =>
    Printf.passes name format.toList (operands.length + 1) ⟨operands, true, none⟩

end Toolbox

end SnapshotSuite
