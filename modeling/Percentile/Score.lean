/-!
# Scores

Every number a check reads or computes is a *score*: an integer in the range of a signed 64-bit
word. Content may supply any score, so sums and products can leave the range.

**Arithmetic saturates.** A sum, difference or product is the exact integer, moved to the nearest
end of the range when it lies outside (`toInt_add`, `toInt_sub`, `toInt_mul`). Saturating addition
is not associative: the order of a long sum matters as soon as a partial sum leaves the range.

**Order and equality are those of the integers**, so every question about scores can be asked of
`toInt`.
-/

namespace Percentile

/-- An integer in the range of a signed 64-bit word. -/
@[ext]
structure Score where
  toInt : Int
  /-- No score is below the range. -/
  least_le : -9223372036854775808 ≤ toInt
  /-- No score is above the range. -/
  le_greatest : toInt ≤ 9223372036854775807
  deriving DecidableEq

namespace Score

/-- The score nearest to an integer. -/
def clamp (n : Int) : Score where
  toInt := max (-9223372036854775808) (min n 9223372036854775807)
  least_le := by omega
  le_greatest := by omega

/-- The score that is exactly `n`, if `n` lies in the range. -/
def ofInt? (n : Int) : Option Score :=
  if h : -9223372036854775808 ≤ n ∧ n ≤ 9223372036854775807 then some ⟨n, h.1, h.2⟩ else none

def least : Score := ⟨-9223372036854775808, by decide, by decide⟩

def greatest : Score := ⟨9223372036854775807, by decide, by decide⟩

instance (n : Nat) : OfNat Score n := ⟨clamp n⟩

instance : Inhabited Score := ⟨0⟩

instance : LE Score := ⟨fun a b => a.toInt ≤ b.toInt⟩

instance : LT Score := ⟨fun a b => a.toInt < b.toInt⟩

instance : DecidableLE Score := fun a b => inferInstanceAs (Decidable (a.toInt ≤ b.toInt))

instance : DecidableLT Score := fun a b => inferInstanceAs (Decidable (a.toInt < b.toInt))

instance : Max Score := ⟨fun a b => if a ≤ b then b else a⟩

/-- Saturating addition. -/
instance : Add Score := ⟨fun a b => clamp (a.toInt + b.toInt)⟩

/-- Saturating subtraction. -/
instance : Sub Score := ⟨fun a b => clamp (a.toInt - b.toInt)⟩

/-- Saturating multiplication. -/
instance : Mul Score := ⟨fun a b => clamp (a.toInt * b.toInt)⟩

/-- The opposite score. The least score has no opposite in the range and stays as it is. -/
def opposite (a : Score) : Score :=
  if h : a.toInt = -9223372036854775808 then a
  else ⟨-a.toInt, by have := a.le_greatest; omega, by have := a.least_le; omega⟩

/-- Division by a positive whole number, rounded down. -/
def divFloor (a : Score) (d : Nat) : Score := clamp (a.toInt / d)

/-- The score of the interval from `-cap` to `cap` nearest to `a`. A negative cap counts as zero. -/
def within (cap a : Score) : Score :=
  clamp (max (-(max cap.toInt 0)) (min a.toInt (max cap.toInt 0)))

/-- The sum of a list of scores, added from the left. -/
def sum (scores : List Score) : Score := scores.foldl (· + ·) 0

/-! ## What the operations are as integers -/

@[simp] theorem toInt_clamp (n : Int) :
    (clamp n).toInt = max (-9223372036854775808) (min n 9223372036854775807) := rfl

@[simp] theorem clamp_toInt (a : Score) : clamp a.toInt = a := by
  ext
  have := a.least_le
  have := a.le_greatest
  rw [toInt_clamp]
  omega

@[simp] theorem toInt_ofNat (n : Nat) :
    (OfNat.ofNat n : Score).toInt = min (n : Int) 9223372036854775807 := by
  show (clamp n).toInt = _
  rw [toInt_clamp]
  omega

@[simp] theorem toInt_zero : (0 : Score).toInt = 0 := rfl

theorem le_iff (a b : Score) : a ≤ b ↔ a.toInt ≤ b.toInt := Iff.rfl

theorem lt_iff (a b : Score) : a < b ↔ a.toInt < b.toInt := Iff.rfl

@[simp] theorem toInt_max (a b : Score) : (max a b).toInt = max a.toInt b.toInt := by
  show (if a ≤ b then b else a).toInt = _
  split <;> rename_i h <;> simp only [le_iff] at h <;> omega

@[simp] theorem toInt_add (a b : Score) :
    (a + b).toInt = max (-9223372036854775808) (min (a.toInt + b.toInt) 9223372036854775807) := rfl

@[simp] theorem toInt_sub (a b : Score) :
    (a - b).toInt = max (-9223372036854775808) (min (a.toInt - b.toInt) 9223372036854775807) := rfl

@[simp] theorem toInt_mul (a b : Score) :
    (a * b).toInt = max (-9223372036854775808) (min (a.toInt * b.toInt) 9223372036854775807) := rfl

theorem toInt_least : least.toInt = -9223372036854775808 := rfl

theorem toInt_opposite {a : Score} (h : least < a) : a.opposite.toInt = -a.toInt := by
  rw [lt_iff, toInt_least] at h
  unfold opposite
  rw [dif_neg (by omega)]

/-- Rounding down a quotient never leaves the range. -/
theorem toInt_divFloor (a : Score) (d : Nat) (h : 0 < d) : (a.divFloor d).toInt = a.toInt / d := by
  have h₁ := a.least_le
  have h₂ := a.le_greatest
  have lower : -9223372036854775808 ≤ a.toInt / d := by
    rw [Int.le_ediv_iff_mul_le (by omega)]
    have : (-9223372036854775808 : Int) * d ≤ -9223372036854775808 * 1 :=
      Int.mul_le_mul_of_nonpos_left (by decide) (by omega)
    omega
  have upper : a.toInt / d ≤ 9223372036854775807 := by
    rw [Int.ediv_le_iff_le_mul (by omega)]
    have : (9223372036854775807 : Int) * 1 ≤ 9223372036854775807 * d :=
      Int.mul_le_mul_of_nonneg_left (by omega) (by decide)
    omega
  show max _ (min _ _) = _
  omega

theorem ofInt?_eq_some_iff {n : Int} {a : Score} : ofInt? n = some a ↔ a.toInt = n := by
  unfold ofInt?
  constructor
  · split <;> intro h <;> simp at h
    rw [← h]
  · rintro rfl
    rw [dif_pos ⟨a.least_le, a.le_greatest⟩]

instance : ToString Score := ⟨fun a => toString a.toInt⟩

end Score

end Percentile
