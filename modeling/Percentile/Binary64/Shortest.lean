import Percentile.Binary64

/-!
# Shortest decimals

The text of a binary64 number shows the fewest digits that still name that number among all others:
of the decimals that lie nearer to it than to its neighbours, those with the fewest digits, and of
these the nearest.

**The interval.** The reals that round to `m · 2 ^ e` reach half a step to either side, and only a
quarter of the upper step below a power of two, where the lower neighbour is nearer. The two ends
belong to it when `m` is even, because ties go to the even significand.

**The search** walks from coarse to fine grids of decimals and tests the two neighbours of the
number on each. A grid that has a point in the interval has one of these two in it.
-/

namespace Percentile

/-- The decimal `digits · 10 ^ exponent`. -/
structure Decimal where
  /-- The digits, as one whole number. -/
  digits : Nat
  /-- The power of ten that scales it. -/
  exponent : Int
  deriving DecidableEq, Repr

namespace Binary64

/-- A fine unit in which half steps and quarter steps are whole: `significand = 4` units. -/
private def unitExponent (x : Binary64) : Int := x.exponent - 2

/-- Whether `a` units of `x` are at most `digits · 10 ^ p`. -/
private def unitsLe (x : Binary64) (a digits : Nat) (p : Int) : Bool :=
  (a * Nat.pow 10 (-p).toNat) <<< x.unitExponent.toNat ≤
    (digits * Nat.pow 10 p.toNat) <<< (-x.unitExponent).toNat

/-- Whether `digits · 10 ^ p` is at most `a` units of `x`. -/
private def leUnits (x : Binary64) (digits : Nat) (p : Int) (a : Nat) : Bool :=
  (digits * Nat.pow 10 p.toNat) <<< (-x.unitExponent).toNat ≤
    (a * Nat.pow 10 (-p).toNat) <<< x.unitExponent.toNat

/-- Whether the decimal `digits · 10 ^ p` rounds to the magnitude of `x`. -/
def roundsTo (x : Binary64) (digits : Nat) (p : Int) : Bool :=
  let center := 4 * x.significand
  let below := if x.significand = leastNormal ∧ leastExponent < x.exponent then 1 else 2
  if x.significand % 2 = 0 then
    x.unitsLe (center - below) digits p && x.leUnits digits p (center + 2)
  else
    !x.leUnits digits p (center - below) && !x.unitsLe (center + 2) digits p

/-- The greatest multiple of `10 ^ p` that is at most the magnitude of `x`. -/
private def floorAt (x : Binary64) (p : Int) : Nat :=
  ((x.significand * Nat.pow 10 (-p).toNat) <<< x.exponent.toNat) /
    (Nat.pow 10 p.toNat <<< (-x.exponent).toNat)

/-- The point of the grid of `10 ^ p` that rounds to `x` and lies nearest, a tie to the even one. -/
def onGrid? (x : Binary64) (p : Int) : Option Decimal :=
  let lower := x.floorAt p
  match x.roundsTo lower p, x.roundsTo (lower + 1) p with
  | false, false => none
  | true, false => some ⟨lower, p⟩
  | false, true => some ⟨lower + 1, p⟩
  | true, true =>
    -- compare twice the number with the sum of its two neighbours
    let middle := 2 * lower + 1
    let up := !x.unitsLe (8 * x.significand) middle p
    let tie := x.unitsLe (8 * x.significand) middle p && x.leUnits middle p (8 * x.significand)
    if up || (tie && lower % 2 == 1) then some ⟨lower + 1, p⟩ else some ⟨lower, p⟩

/-- Search the grids from `10 ^ p` downwards. -/
private def searchGrids (x : Binary64) (p : Int) : Nat → Decimal
  | 0 => ⟨x.floorAt p, p⟩
  | grids + 1 => (x.onGrid? p).getD (searchGrids x (p - 1) grids)

/-- The shortest decimal that rounds to the magnitude of `x`. Twenty grids reach from above the
first digit to below the seventeenth, which always suffices. -/
def shortest (x : Binary64) : Decimal :=
  if x.isZero then ⟨0, 0⟩
  else
    let bits : Int := x.significand.log2 + 1 + x.exponent
    x.searchGrids (bits * 30103 / 100000 + 1) 20

end Binary64

end Percentile
