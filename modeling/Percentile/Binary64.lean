/-!
# Double-precision numbers

JSON numbers that are not whole, or too large for a machine word, are read as *binary64* numbers.
The library computes nothing with them, but it has to read their text as a sequence of correctly
rounded steps and to write the shortest text that reads back, so they are kept exactly, as
`± significand · 2 ^ exponent`.

**Rounding.** `Binary64.round` takes an exact quotient to the nearest binary64 number, a tie to the
even significand. A quotient beyond the range has none.

**Reading.** `Binary64.ofDecimal` reads `significand · 10 ^ exponent` in two or more rounded steps:
first the significand, then one product or quotient with a power of ten. This is not always the
nearest number to the decimal, and is what readers of JSON without extended precision compute.
-/

namespace Percentile

/-- A finite binary64 number `± significand · 2 ^ exponent`. In the numbers that `Binary64.round`
makes, the exponent is at least `-1074`, the significand is below `2 ^ 53`, and it is below `2 ^ 52`
only at the least exponent. -/
structure Binary64 where
  /-- Whether the sign is a minus. Zero has both signs. -/
  negative : Bool
  /-- The significand, a whole number. -/
  significand : Nat
  /-- The power of two that scales the significand. -/
  exponent : Int
  deriving DecidableEq, Repr

namespace Binary64

/-- The least exponent, that of zero and of all numbers below `2 ^ -1022`. -/
def leastExponent : Int := -1074

/-- The greatest exponent. -/
def greatestExponent : Int := 971

/-- The number of significands, `2 ^ 53`. -/
def significandRange : Nat := 9007199254740992

/-- The least significand above the least exponent, `2 ^ 52`. -/
def leastNormal : Nat := 4503599627370496

/-- Zero with a sign. -/
def zero (negative : Bool) : Binary64 := ⟨negative, 0, leastExponent⟩

/-- Whether the number is zero. -/
def isZero (x : Binary64) : Bool := x.significand == 0

/-- The same magnitude under the given sign. -/
def withSign (x : Binary64) (negative : Bool) : Binary64 := { x with negative }

/-- The whole number nearest to `num / den`, a tie to the even one. -/
def roundQuotient (num den : Nat) : Nat :=
  let q := num / den
  let r := num % den
  if den < 2 * r ∨ (den = 2 * r ∧ q % 2 = 1) then q + 1 else q

/-- The magnitude nearest to `num / den`, or `none` beyond the greatest binary64 number. -/
def round (num den : Nat) : Option Binary64 :=
  if num = 0 then some (zero false)
  else
    -- `num / den` lies strictly between `2 ^ 52` and `2 ^ 54` times this power of two
    let coarse : Int := Int.ofNat num.log2 - Int.ofNat den.log2 - 53
    let scaled (e : Int) : Nat × Nat := (num <<< (-e).toNat, den <<< e.toNat)
    let fits (e : Int) : Bool := (scaled e).1 < significandRange * (scaled e).2
    let e := max leastExponent (if fits coarse then coarse else coarse + 1)
    let m := roundQuotient (scaled e).1 (scaled e).2
    -- rounding up may reach the next power of two
    let (m, e) := if m = significandRange then (leastNormal, e + 1) else (m, e)
    if e ≤ greatestExponent then some ⟨false, m, e⟩ else none

/-- The magnitude as a quotient of whole numbers. -/
def quotient (x : Binary64) : Nat × Nat :=
  (x.significand <<< x.exponent.toNat, 1 <<< (-x.exponent).toNat)

/-- The rounded product of two magnitudes. -/
def mul (x y : Binary64) : Option Binary64 :=
  round (x.quotient.1 * y.quotient.1) (x.quotient.2 * y.quotient.2)

/-- The rounded quotient of two magnitudes, of which the second is not zero. -/
def div (x y : Binary64) : Option Binary64 :=
  round (x.quotient.1 * y.quotient.2) (x.quotient.2 * y.quotient.1)

/-- The magnitude nearest to a power of ten. -/
def tenPow (n : Nat) : Option Binary64 := round (Nat.pow 10 n) 1

/-- The greatest power of ten in the range. -/
def greatestTenPow : Nat := 308

/-- Scale a magnitude by a power of ten: one rounded product or quotient for an exponent up to 308.
A smaller exponent takes a quotient for every 308 of it, for as long as the number is not zero. -/
def scaleTen (x : Binary64) (exponent : Int) : Nat → Option Binary64
  | 0 => some x
  | steps + 1 =>
    if exponent.natAbs ≤ greatestTenPow then
      (tenPow exponent.natAbs).bind fun p => if 0 ≤ exponent then x.mul p else x.div p
    else if x.isZero then some x
    else if 0 ≤ exponent then none
    else (tenPow greatestTenPow).bind fun p => (x.div p).bind fun y =>
      scaleTen y (exponent + greatestTenPow) steps

/-- Read `significand · 10 ^ exponent`, or `none` if a step leaves the range. -/
def ofDecimal (negative : Bool) (significand : Nat) (exponent : Int) : Option Binary64 :=
  (round significand 1).bind fun x =>
    (x.scaleTen exponent (exponent.natAbs / greatestTenPow + 1)).map (·.withSign negative)

end Binary64

end Percentile
