import SnapshotSuite.Decimal.Binary64
/-!
# The shortest decimal that reads back

`Decimal.shortest` takes the multiple of a power of ten that lies in the interval of reals rounding
to a given number, on the coarsest grid `10^e` that has one there. Of two candidates on that grid
the nearer wins, and of two equally near ones the even. All comparisons are exact.
-/

namespace SnapshotSuite

/-- The decimal number `digits · 10^exponent`. -/
structure Decimal where
  /-- The digits, as a number. -/
  digits : Nat
  /-- The power of ten that scales them. -/
  exponent : Int
deriving DecidableEq, Repr

namespace Decimal

/-- Compares `a · 10^i` with `b · 2^j`. -/
def compareScaled (a : Nat) (i : Int) (b : Nat) (j : Int) : Ordering :=
  compare (a * Nat.pow 10 i.toNat * Nat.pow 2 (-j).toNat)
    (b * Nat.pow 2 j.toNat * Nat.pow 10 (-i).toNat)

/-- Whether the decimal lies among the reals that round to the magnitude of `x`, halves going to
the even significand. -/
def readsBack (d : Decimal) (x : Binary64) : Bool :=
  let m := x.significand
  let below := if x.isNarrowBelow then 4 * m - 1 else 4 * m - 2
  let low := compareScaled d.digits d.exponent below (x.exponent - 2)
  let high := compareScaled d.digits d.exponent (4 * m + 2) (x.exponent - 2)
  if m % 2 = 0 then low != .lt && high != .gt else low == .gt && high == .lt

/-- The whole number of times that `10^e` goes into the magnitude of `x`. -/
def quotient (x : Binary64) (e : Int) : Nat :=
  x.significand * Nat.pow 2 x.exponent.toNat * Nat.pow 10 (-e).toNat /
    (Nat.pow 2 (-x.exponent).toNat * Nat.pow 10 e.toNat)

/-- The nearest multiple of `10^e` that reads back, if one does. -/
def onGrid? (x : Binary64) (e : Int) : Option Decimal :=
  let below : Decimal := ⟨quotient x e, e⟩
  let above : Decimal := ⟨quotient x e + 1, e⟩
  match below.readsBack x, above.readsBack x with
  | true, false => some below
  | false, true => some above
  | false, false => none
  | true, true =>
    -- twice the value against the sum of its two neighbours on the grid
    match compareScaled (2 * below.digits + 1) e (2 * x.significand) x.exponent with
    | .gt => some below
    | .lt => some above
    | .eq => if below.digits % 2 = 0 then some below else some above

/-- The power of ten at which the search starts: its multiples are too coarse for `x`. -/
def coarsest (x : Binary64) : Int :=
  ((Nat.log2 x.significand : Int) + x.exponent) * 30103 / 100000 + 2

/-- The exact magnitude of `x`, for the case that no grid of the search has a hit. -/
def exact (x : Binary64) : Decimal :=
  ⟨x.significand * Nat.pow 2 x.exponent.toNat * Nat.pow 5 (-x.exponent).toNat, min 0 x.exponent⟩

/-- The fewest digits that read back as the magnitude of a number other than zero. -/
def shortest (x : Binary64) : Decimal :=
  ((List.range 25).findSome? fun (i : Nat) => onGrid? x (coarsest x - i)).getD (exact x)

end Decimal

end SnapshotSuite
