/-!
# Binary64 numbers

The finite double-precision numbers, held by their bits so that two of them are the same value of
the type exactly when their bits agree. A number is `significand · 2^exponent` with a sign.
-/

namespace SnapshotSuite

/-- A double-precision number, by its bits. -/
structure Binary64 where
  /-- Sign, exponent and fraction. -/
  bits : UInt64
deriving DecidableEq, Repr

namespace Binary64

/-- The number that the machine holds in `x`. -/
def ofFloat (x : Float) : Binary64 := ⟨x.toBits⟩

/-- Whether the sign bit is set; it is for `-0.0` too. -/
def isNegative (x : Binary64) : Bool :=
  x.bits >>> 63 == 1

/-- The eleven bits of the exponent. -/
def exponentField (x : Binary64) : Nat :=
  ((x.bits >>> 52) &&& 0x7FF).toNat

/-- The fifty-two bits of the fraction. -/
def fraction (x : Binary64) : Nat :=
  (x.bits &&& 0xFFFFFFFFFFFFF).toNat

/-- The whole number that is scaled by `2^exponent`. -/
def significand (x : Binary64) : Nat :=
  if x.exponentField = 0 then x.fraction else 0x10000000000000 + x.fraction

/-- The power of two that scales the significand. -/
def exponent (x : Binary64) : Int :=
  if x.exponentField = 0 then -1074 else (x.exponentField : Int) - 1075

/-- Whether the neighbour below is half as far away as the neighbour above. -/
def isNarrowBelow (x : Binary64) : Bool :=
  x.fraction == 0 && decide (1 < x.exponentField)

/-- Whether the number is zero, of either sign. -/
def isZero (x : Binary64) : Bool :=
  x.significand == 0

/-- Equality of numbers: that of the bits, except that the two zeros are equal. -/
def sameValue (x y : Binary64) : Bool :=
  x == y || (x.isZero && y.isZero)

end Binary64

end SnapshotSuite
