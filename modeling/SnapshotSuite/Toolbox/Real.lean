import SnapshotSuite.Toolbox.Numeral
/-!
# Reals in words

A real is read as an exact fraction, brought to the nearest value that a format of binary digits
has, and written in digits that are exact for that value. Ties go to even, in reading and in
writing.
-/

namespace SnapshotSuite

namespace Toolbox

/-- A number that may be infinite or none at all, with a sign. -/
inductive Real where
  /-- The fraction `numerator / denominator`. -/
  | finite (isNegative : Bool) (numerator denominator : Nat)
  /-- An infinite number. -/
  | infinite (isNegative : Bool)
  /-- No number. -/
  | notNumber (isNegative : Bool)
deriving DecidableEq, Repr

/-- A quotient rounded to the nearest whole number, halves to even. -/
def roundedQuotient (numerator denominator : Nat) : Nat :=
  let quotient := numerator / denominator
  let twice := 2 * (numerator % denominator)
  if denominator < twice then quotient + 1
  else if twice = denominator then quotient + quotient % 2
  else quotient

namespace Real

/-! ### Reading -/

/-- The digits before and behind a point, and what stands behind them. -/
def readDigits (base : Nat) (cs : List Char) : List Char × List Char × List Char :=
  let isDigit (c : Char) : Bool := (Numeral.digit? base c).isSome
  let whole := cs.takeWhile isDigit
  match cs.drop whole.length with
  | '.' :: rest => (whole, rest.takeWhile isDigit, rest.dropWhile isDigit)
  | rest => (whole, [], rest)

/-- An exponent behind one of some letters, and what stands behind it. -/
def readExponent (letters : List Char) (cs : List Char) : Int × List Char :=
  match cs with
  | c :: rest =>
    if letters.contains c ∧ (rest.head?.any fun d => !isSpaceOctet d) then
      let exponent := Numeral.readDecimal rest
      if exponent.isPresent then (exponent.value, exponent.rest) else (0, cs)
    else (0, cs)
  | [] => (0, [])

/-- Exponents beyond this one change nothing more. -/
def farthest : Int := 20000

/-- A fraction scaled by a power of a base. -/
def scaled (isNegative : Bool) (digits base : Nat) (exponent : Int) : Real :=
  if digits = 0 then .finite isNegative 0 1
  else
    let exponent := max (-farthest) (min farthest exponent)
    .finite isNegative (digits * Nat.pow base exponent.toNat) (Nat.pow base (-exponent).toNat)

/-- The number that digits of a base write. -/
def valueOf (base : Nat) (digits : List Char) : Nat :=
  digits.foldl (fun n c => n * base + (Numeral.digit? base c).getD 0) 0

/-- What stands behind the brackets in front, if they hold a payload of letters and digits. -/
def dropPayload (cs : List Char) : List Char :=
  match cs with
  | '(' :: inner =>
    match inner.dropWhile fun c => c.isAlphanum || c = '_' with
    | ')' :: rest => rest
    | _ => cs
  | _ => cs

/-- The real that stands in front, behind the sign, and what stands behind it. -/
def readUnsigned? (isNegative : Bool) (cs : List Char) : Option (Real × List Char) :=
  let lower := cs.map Char.toLower
  let hexadecimal? : Option (Real × List Char) :=
    match lower with
    | '0' :: 'x' :: _ =>
      let (whole, part, rest) := readDigits 16 (cs.drop 2)
      if whole = [] ∧ part = [] then none
      else
        let (exponent, rest) := readExponent ['p', 'P'] rest
        some (scaled isNegative (valueOf 16 (whole ++ part)) 2 (exponent - 4 * part.length), rest)
    | _ => none
  if hexadecimal?.isSome then hexadecimal?
  else if "infinity".toList.isPrefixOf lower then some (.infinite isNegative, cs.drop 8)
  else if "inf".toList.isPrefixOf lower then some (.infinite isNegative, cs.drop 3)
  else if "nan".toList.isPrefixOf lower then
    some (.notNumber isNegative, dropPayload (cs.drop 3))
  else
    let (whole, part, rest) := readDigits 10 cs
    if whole = [] ∧ part = [] then none
    else
      let (exponent, rest) := readExponent ['e', 'E'] rest
      some (scaled isNegative (valueOf 10 (whole ++ part)) 10 (exponent - part.length), rest)

/-- The real at the front of a word, and what stands behind it. -/
def read? (cs : List Char) : Option (Real × List Char) :=
  match cs.dropWhile isSpaceOctet with
  | '-' :: cs => readUnsigned? true cs
  | '+' :: cs => readUnsigned? false cs
  | cs => readUnsigned? false cs

/-! ### Binary formats -/

/-- A format of binary digits. -/
structure Format where
  /-- How many digits a significand has. -/
  precision : Nat
  /-- The least power of two that scales a significand. -/
  least : Int
  /-- The greatest power of two that scales a significand. -/
  greatest : Int
  /-- How many binary digits stand before the point in hexadecimal writing. -/
  leading : Nat
deriving DecidableEq, Repr

/-- Double precision. -/
def Format.double : Format := ⟨53, -1074, 971, 1⟩

/-- Double precision extended to eighty bits. -/
def Format.extended : Format := ⟨64, -16445, 16320, 4⟩

/-- The power of two by which the significand of a fraction is scaled. -/
def scaleOf (format : Format) (numerator denominator : Nat) : Int :=
  let guess := (Nat.log2 numerator : Int) - Nat.log2 denominator - format.precision
  let fits (e : Int) : Bool :=
    numerator * Nat.pow 2 (-e).toNat < denominator * Nat.pow 2 (e.toNat + format.precision)
  max format.least (if fits guess then guess else guess + 1)

/-- A significand and the power of two that scales it: the nearest to a fraction. -/
def significand (format : Format) (numerator denominator : Nat) : Nat × Int :=
  let e := scaleOf format numerator denominator
  (roundedQuotient (numerator * Nat.pow 2 (-e).toNat) (denominator * Nat.pow 2 e.toNat), e)

/-- The nearest number of a format; what is too great is infinite. -/
def nearest (format : Format) (real : Real) : Real :=
  match real with
  | .finite isNegative numerator denominator =>
    if numerator = 0 then real
    else
      let (m, e) := significand format numerator denominator
      if Nat.pow 2 (format.precision + format.greatest.toNat) ≤ m * Nat.pow 2 e.toNat then
        .infinite isNegative
      else .finite isNegative (m * Nat.pow 2 e.toNat) (Nat.pow 2 (-e).toNat)
  | real => real

/-! ### Writing -/

/-- Digits with so many of them behind a point. -/
def withPoint (keepsPoint : Bool) (places : Nat) (digits : List Char) : List Char :=
  let digits := List.replicate (places + 1 - digits.length) '0' ++ digits
  let whole := digits.take (digits.length - places)
  let part := digits.drop (digits.length - places)
  whole ++ (if part = [] ∧ !keepsPoint then [] else '.' :: part)

/-- A fraction with so many places. -/
def fixed (keepsPoint : Bool) (places numerator denominator : Nat) : List Char :=
  withPoint keepsPoint places
    (Nat.toDigits 10 (roundedQuotient (numerator * Nat.pow 10 places) denominator))

/-- The power of ten below a fraction other than zero; `fuel` bounds the search from a guess. -/
def decade (numerator denominator : Nat) : Int :=
  let guess := ((Nat.log2 numerator : Int) - Nat.log2 denominator) * 30103 / 100000
  let isBelow (d : Int) : Bool :=
    denominator * Nat.pow 10 d.toNat ≤ numerator * Nat.pow 10 (-d).toNat
  ([guess + 2, guess + 1, guess, guess - 1].find? isBelow).getD (guess - 2)

/-- The digits of a fraction, so many and one more, and the power of ten of the first. -/
def scientificDigits (places numerator denominator : Nat) : List Char × Int :=
  if numerator = 0 then (List.replicate (places + 1) '0', 0)
  else
    let d := decade numerator denominator
    let shift := (places : Int) - d
    let digits := Nat.toDigits 10
      (roundedQuotient (numerator * Nat.pow 10 shift.toNat)
        (denominator * Nat.pow 10 (-shift).toNat))
    if digits.length = places + 2 then (digits.dropLast, d + 1) else (digits, d)

/-- The text of an exponent, of two digits at least. -/
def exponentText (letter : Char) (least : Nat) (exponent : Int) : List Char :=
  let digits := Nat.toDigits 10 exponent.natAbs
  letter :: (if exponent < 0 then '-' else '+') ::
    (List.replicate (least - digits.length) '0' ++ digits)

/-- Digits with the point behind the first, and an exponent. -/
def scientific (keepsPoint : Bool) (digits : List Char) (exponent : Int) : List Char :=
  withPoint keepsPoint (digits.length - 1) digits ++ exponentText 'e' 2 exponent

/-- Digits without the noughts at their end. -/
def withoutTrailingZeros (cs : List Char) : List Char :=
  (cs.reverse.dropWhile (· = '0')).reverse

/-- A fraction in so many digits, in the shorter way of writing; noughts at the end are left out
unless the point is kept. -/
def general (keepsPoint : Bool) (precision numerator denominator : Nat) : List Char :=
  let precision := max 1 precision
  let (digits, exponent) := scientificDigits (precision - 1) numerator denominator
  if -4 ≤ exponent ∧ exponent < precision then
    let text := fixed keepsPoint ((precision : Int) - 1 - exponent).toNat numerator denominator
    if keepsPoint ∨ !text.contains '.' then text
    else
      let text := withoutTrailingZeros text
      if text.getLast? = some '.' then text.dropLast else text
  else
    let digits :=
      if keepsPoint then digits else digits.take 1 ++ withoutTrailingZeros (digits.drop 1)
    scientific keepsPoint digits exponent

/-- A fraction in hexadecimal digits, all that a format has or so many behind the point. -/
def hexadecimal (format : Format) (keepsPoint : Bool) (places : Option Nat)
    (numerator denominator : Nat) : List Char :=
  let all := (format.precision - format.leading) / 4
  if numerator = 0 then
    "0x".toList ++ withPoint keepsPoint (places.getD 0) ['0'] ++ exponentText 'p' 1 0
  else
    let (m, e) := significand format numerator denominator
    let exponent := e + (4 * all : Nat)
    match places with
    | some places =>
      let m := if places < all then roundedQuotient m (Nat.pow 16 (all - places))
        else m * Nat.pow 16 (places - all)
      "0x".toList ++ withPoint keepsPoint places (Nat.toDigits 16 m) ++ exponentText 'p' 1 exponent
    | none =>
      let digits := Nat.toDigits 16 m
      let digits := digits.take 1 ++ withoutTrailingZeros (digits.drop 1)
      "0x".toList ++ withPoint keepsPoint (digits.length - 1) digits ++
        exponentText 'p' 1 exponent

/-- The text of a real without its sign, as a letter asks for it. -/
def text (format : Format) (letter : Char) (keepsPoint : Bool) (precision : Option Nat)
    (real : Real) : List Char :=
  let lower :=
    match real with
    | .infinite _ => "inf".toList
    | .notNumber _ => "nan".toList
    | .finite _ numerator denominator =>
      match letter.toLower with
      | 'f' => fixed keepsPoint (precision.getD 6) numerator denominator
      | 'e' =>
        let (digits, exponent) := scientificDigits (precision.getD 6) numerator denominator
        scientific keepsPoint digits exponent
      | 'g' => general keepsPoint (precision.getD 6) numerator denominator
      | _ => hexadecimal format keepsPoint precision numerator denominator
  if letter.isUpper then lower.map Char.toUpper else lower

/-- Whether a real has a minus. -/
def isNegative : Real → Bool
  | .finite isNegative _ _ | .infinite isNegative | .notNumber isNegative => isNegative

/-- Whether a real has digits. -/
def isFinite : Real → Bool
  | .finite .. => true
  | _ => false

end Real

end Toolbox

end SnapshotSuite
