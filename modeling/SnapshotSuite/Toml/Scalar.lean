import SnapshotSuite.Text.Reader
import SnapshotSuite.Toml.Value
/-!
# Unquoted values

A value without quotes or brackets is a word of letters, digits and a few signs. A whole word is a
truth value, a whole number, a real number, or a date or time, or it is none of these; which one
does not depend on what comes after it.
-/

namespace SnapshotSuite

namespace Toml

/-- The characters of which unquoted values are made. -/
def isWordChar (c : Char) : Bool :=
  c.isAlphanum || c = '_' || c = '+' || c = '-' || c = '.' || c = ':'

/-! ### Numbers -/

/-- The digits of a number in a base. An underscore may stand between two digits. -/
def digits? (base : Nat) : List Char → Option (List Nat)
  | [] => none
  | [c] => (digitValue? base c).map ([·])
  | c :: '_' :: cs => do return (← digitValue? base c) :: (← digits? base cs)
  | c :: cs => do return (← digitValue? base c) :: (← digits? base cs)

/-- The number that digits write, the most significant first. -/
def ofDigits (base : Nat) (digits : List Nat) : Nat :=
  digits.foldl (fun value d => value * base + d) 0

/-- The digits of a decimal number before its point. A zero in front of others is refused. -/
def wholeDigits? (cs : List Char) : Option (List Nat) := do
  match ← digits? 10 cs with
  | 0 :: _ :: _ => none
  | digits => some digits

/-- Whether a number is negative, and the text after its sign. -/
def unsign : List Char → Bool × List Char
  | '+' :: cs => (false, cs)
  | '-' :: cs => (true, cs)
  | cs => (false, cs)

/-- A whole number that fits 64 bits with its sign. -/
def fitting? (value : Int) : Option Value :=
  if -0x8000000000000000 ≤ value ∧ value < 0x8000000000000000 then some (.integer value) else none

/-- A whole number: decimal with a sign or without, or without one in base 16, 8 or 2. -/
def integer? (cs : List Char) : Option Value :=
  match cs with
  | '0' :: 'x' :: cs => do fitting? (ofDigits 16 (← digits? 16 cs))
  | '0' :: 'o' :: cs => do fitting? (ofDigits 8 (← digits? 8 cs))
  | '0' :: 'b' :: cs => do fitting? (ofDigits 2 (← digits? 2 cs))
  | cs => do
    let (negative, cs) := unsign cs
    let magnitude : Int := ofDigits 10 (← wholeDigits? cs)
    fitting? (if negative then -magnitude else magnitude)

/-- Whether `digits · 10^exponent` is too large for a double-precision number: at least halfway
from the greatest one to the next power of two. -/
def isTooLarge (digits : Nat) (exponent : Int) : Bool :=
  let lead := exponent + (Nat.toDigits 10 digits).length
  if digits = 0 ∨ lead < 309 then false
  else if 309 < lead then true
  else
    decide (0x3FFFFFFFFFFFFF * Nat.pow 2 970 * Nat.pow 10 (-exponent).toNat ≤
      digits * Nat.pow 10 exponent.toNat)

/-- The power of ten after the letter `e`. -/
def power? (cs : List Char) : Option Int := do
  let (negative, cs) := unsign cs
  let magnitude : Int := ofDigits 10 (← digits? 10 cs)
  return if negative then -magnitude else magnitude

/-- A word cut at its first character that satisfies `p`, that character left out. -/
def cutAt (p : Char → Bool) (cs : List Char) : List Char × Option (List Char) :=
  match cs.dropWhile (!p ·) with
  | [] => (cs, none)
  | _ :: after => (cs.takeWhile (!p ·), some after)

/-- A real number: one with a point or a power of ten, an infinity, or no number at all. A
positive one that is too large is refused. -/
def real? (word : List Char) : Option Value := do
  let (negative, cs) := unsign word
  let literal := Value.real (String.ofList word)
  if cs = ['i', 'n', 'f'] ∨ cs = ['n', 'a', 'n'] then return literal
  let (mantissa, power) := cutAt (fun c => c = 'e' || c = 'E') cs
  let (whole, fraction) := cutAt (· = '.') mantissa
  if power.isNone ∧ fraction.isNone then none
  let whole ← wholeDigits? whole
  let fraction ← match fraction with
    | some cs => digits? 10 cs
    | none => some []
  let power ← match power with
    | some cs => power? cs
    | none => some 0
  if !negative ∧ isTooLarge (ofDigits 10 (whole ++ fraction)) (power - fraction.length) then none
  else return literal

/-! ### Dates and times -/

/-- A number of two digits within bounds. -/
def twoDigits? (low high : Nat) (a b : Char) : Option Nat := do
  let n := (← digitValue? 10 a) * 10 + (← digitValue? 10 b)
  if low ≤ n ∧ n ≤ high then some n else none

/-- The number of days of a month. -/
def daysOf (year month : Nat) : Nat :=
  if month = 2 then
    if year % 4 = 0 ∧ (year % 100 ≠ 0 ∨ year % 400 = 0) then 29 else 28
  else if month = 4 ∨ month = 6 ∨ month = 9 ∨ month = 11 then 30
  else 31

/-- Takes a date off the front of a word; what is left follows its last digit. -/
def afterDate? : List Char → Option (List Char)
  | a :: b :: c :: d :: '-' :: m :: n :: '-' :: x :: y :: rest => do
    let century ← twoDigits? 0 99 a b
    let year := century * 100 + (← twoDigits? 0 99 c d)
    let month ← twoDigits? 1 12 m n
    let _ ← twoDigits? 1 (daysOf year month) x y
    return rest
  | _ => none

/-- Takes a time off the front of a word, with parts of a second if there are any. -/
def afterTime? : List Char → Option (List Char)
  | a :: b :: ':' :: c :: d :: ':' :: e :: f :: rest => do
    let _ ← twoDigits? 0 23 a b
    let _ ← twoDigits? 0 59 c d
    let _ ← twoDigits? 0 60 e f
    match rest with
    | '.' :: c :: cs => if c.isDigit then return cs.dropWhile Char.isDigit else none
    | ['.'] => none
    | rest => return rest
  | _ => none

/-- Whether a text is an offset from universal time. -/
def isOffset : List Char → Bool
  | ['Z'] | ['z'] => true
  | [sign, a, b, ':', c, d] =>
    (sign = '+' || sign = '-') && (twoDigits? 0 23 a b).isSome && (twoDigits? 0 59 c d).isSome
  | _ => false

/-- Whether a text is a time with an offset or without one. -/
def isTimeOfDate (cs : List Char) : Bool :=
  match afterTime? cs with
  | some [] => true
  | some rest => isOffset rest
  | none => false

/-- Whether a text is a date without a time. -/
def isDate (cs : List Char) : Bool :=
  afterDate? cs == some []

/-- A date, a time, or a date and a time with the letter `T` between them. -/
def dateTime? (word : List Char) : Option Value :=
  let accepted :=
    match afterDate? word with
    | some [] => true
    | some ('T' :: cs) | some ('t' :: cs) => isTimeOfDate cs
    | some _ => false
    | none => afterTime? word == some []
  if accepted then some (.dateTime (String.ofList word)) else none

/-- The value that a whole word stands for. -/
def scalar? (word : List Char) : Option Value :=
  if word = ['t', 'r', 'u', 'e'] then some (.bool true)
  else if word = ['f', 'a', 'l', 's', 'e'] then some (.bool false)
  else integer? word <|> real? word <|> dateTime? word

end Toml

end SnapshotSuite
