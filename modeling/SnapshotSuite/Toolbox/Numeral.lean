import SnapshotSuite.Text.Reader
import SnapshotSuite.Toolbox.Octets
/-!
# Numbers in words

A number stands at the front of a word, behind blanks and a sign. Its first digits can name the
base: a nought for eight, a nought and an x for sixteen, a nought and a b for two. Numbers are kept
in sixty-four bits.
-/

namespace SnapshotSuite

namespace Toolbox

/-- A number read off the front of a word. -/
structure Numeral where
  /-- Its value, whatever its size. -/
  value : Int
  /-- What stands behind it. -/
  rest : List Char
  /-- Whether there was one. -/
  isPresent : Bool
deriving DecidableEq, Repr

namespace Numeral

/-- The value of a digit in a base up to thirty-six, in either case. -/
def digit? (base : Nat) (c : Char) : Option Nat :=
  let value? :=
    if c.isDigit then some (c.toNat - 48)
    else if c.isAlpha then some (c.toLower.toNat - 97 + 10)
    else none
  value?.filter (· < base)

/-- A number without a sign, and what stands behind it; `none` if there is no digit. -/
def readNatural (base : Nat) (cs : List Char) : Option (Nat × List Char) :=
  let digits := cs.takeWhile fun c => (digit? base c).isSome
  if digits = [] then none
  else some (digits.foldl (fun n c => n * base + (digit? base c).getD 0) 0, cs.drop digits.length)

/-- A number without a sign in the base that its first digits name. -/
def readBased (cs : List Char) : Option (Nat × List Char) :=
  match cs with
  | '0' :: x :: d :: rest =>
    if (x = 'x' ∨ x = 'X') ∧ (digit? 16 d).isSome then readNatural 16 (d :: rest)
    else if (x = 'b' ∨ x = 'B') ∧ (digit? 2 d).isSome then readNatural 2 (d :: rest)
    else readNatural 8 cs
  | '0' :: _ => readNatural 8 cs
  | _ => readNatural 10 cs

/-- A number at the front of a word, read by some rule for numbers without a sign. -/
def readBy (natural : List Char → Option (Nat × List Char)) (cs : List Char) : Numeral :=
  let absent : Numeral := ⟨0, cs, false⟩
  let found (sign : Int) (cs : List Char) : Numeral :=
    match natural cs with
    | some (n, rest) => ⟨sign * n, rest, true⟩
    | none => absent
  match cs.dropWhile isSpaceOctet with
  | '-' :: cs => found (-1) cs
  | '+' :: cs => found 1 cs
  | cs => found 1 cs

/-- A number in any base. -/
def read : List Char → Numeral :=
  readBy readBased

/-- A decimal number. -/
def readDecimal : List Char → Numeral :=
  readBy (readNatural 10)

end Numeral

/-! ### Sixty-four bits -/

/-- The number of values that sixty-four bits have. -/
def wordSize : Nat := 0x10000000000000000

/-- The greatest signed number. -/
def greatestSigned : Int := 0x7FFFFFFFFFFFFFFF

/-- The least signed number. -/
def leastSigned : Int := -0x8000000000000000

/-- A number as sixty-four bits keep it, with a sign. -/
def wrapSigned (n : Int) : Int :=
  Int.bmod n wordSize

/-- A number as sixty-four bits keep it, without a sign. -/
def wrapUnsigned (n : Int) : Nat :=
  (n % (wordSize : Int)).toNat

/-- A signed number brought into range, and whether it was in range before. -/
def clampSigned (n : Int) : Int × Bool :=
  if greatestSigned < n then (greatestSigned, false)
  else if n < leastSigned then (leastSigned, false)
  else (n, true)

/-- A number without a sign brought into range, and whether it was in range before. A negative one
counts from the end. -/
def clampUnsigned (n : Int) : Nat × Bool :=
  if wordSize ≤ n.natAbs then (wordSize - 1, false) else (wrapUnsigned n, true)

end Toolbox

end SnapshotSuite
