import SnapshotSuite.Toolbox.Real
/-!
# Directives of formats

How a value is laid out: signs, padding, the least width and the precision.
-/

namespace SnapshotSuite

namespace Toolbox

/-- How a value is laid out. -/
structure Directive where
  /-- The flags, as they are written. -/
  flags : List Char
  /-- The least width; a negative one pads on the right. -/
  width : Int
  /-- The precision, if there is one. -/
  precision : Option Nat
deriving DecidableEq, Repr

namespace Directive

/-- The greatest width and the greatest precision. -/
def greatestMeasure : Nat := 0x7FFFFFFF

/-- Whether a flag is set. -/
def has (directive : Directive) (flag : Char) : Bool :=
  directive.flags.contains flag

/-- Whether the value stands on the left. -/
def isLeft (directive : Directive) : Bool :=
  directive.has '-' || directive.width < 0

/-- A body behind a sign or a mark of its base, padded to the width: with noughts between them if
`zeros` says so and the value does not stand on the left. -/
def pad (directive : Directive) (zeros : Bool) (front body : List Char) : List Char :=
  let room := directive.width.natAbs - (front.length + body.length)
  if directive.isLeft then front ++ body ++ List.replicate room ' '
  else if zeros then front ++ List.replicate room '0' ++ body
  else List.replicate room ' ' ++ front ++ body

/-- The sign of a value. -/
def sign (directive : Directive) (isNegative : Bool) : List Char :=
  if isNegative then ['-'] else if directive.has '+' then ['+']
  else if directive.has ' ' then [' '] else []

/-- Digits, as many as the precision asks for. -/
def digits (directive : Directive) (base n : Nat) : List Char :=
  let ds := if n = 0 ∧ directive.precision = some 0 then [] else Nat.toDigits base n
  List.replicate (directive.precision.getD 1 - ds.length) '0' ++ ds

/-- Whether whole numbers are padded with noughts. -/
def padsWithZeros (directive : Directive) : Bool :=
  directive.has '0' && directive.precision.isNone

/-- A text, cut to the precision. -/
def text (directive : Directive) (cs : List Char) : List Char :=
  directive.pad false [] (match directive.precision with
    | some n => cs.take n
    | none => cs)

/-- A number with a sign. -/
def signed (directive : Directive) (n : Int) : List Char :=
  directive.pad directive.padsWithZeros (directive.sign (n < 0)) (directive.digits 10 n.natAbs)

/-- A number without a sign, as a letter asks for it. -/
def unsigned (directive : Directive) (letter : Char) (n : Nat) : List Char :=
  let isMarked := directive.has '#'
  match letter with
  | 'o' =>
    let ds := directive.digits 8 n
    directive.pad directive.padsWithZeros []
      (if isMarked ∧ ds.head? ≠ some '0' then '0' :: ds else ds)
  | 'x' | 'X' =>
    let shown (cs : List Char) : List Char := if letter = 'X' then cs.map Char.toUpper else cs
    directive.pad directive.padsWithZeros
      (if isMarked ∧ n ≠ 0 then shown ['0', 'x'] else []) (shown (directive.digits 16 n))
  | _ => directive.pad directive.padsWithZeros [] (directive.digits 10 n)

/-- A real, as a letter asks for it. -/
def real (directive : Directive) (format : Real.Format) (letter : Char) (r : Real) : List Char :=
  let sign := directive.sign r.isNegative
  let body := r.text format letter (directive.has '#') directive.precision
  let mark := if r.isFinite ∧ letter.toLower = 'a' then body.take 2 else []
  directive.pad (directive.has '0' && r.isFinite) (sign ++ mark) (body.drop mark.length)

end Directive

end Toolbox

end SnapshotSuite
