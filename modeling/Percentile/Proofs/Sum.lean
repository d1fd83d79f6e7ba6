import Mathlib.Algebra.BigOperators.Group.List.Basic
import Mathlib.Algebra.Ring.Int.Defs
import Mathlib.Algebra.Ring.Nat
import Percentile.Score

/-!
# Sums that stay in the range

A saturating sum depends on the order of its terms as soon as a partial sum leaves the range. That
cannot happen while the *magnitude* of the terms, the sum of their absolute values, lies in the
range: then the sum is the exact one (`toInt_sum`), and the order does not matter
(`sum_eq_of_perm`).
-/

namespace Percentile

namespace Score

/-- The sum of the absolute values. -/
def magnitude (scores : List Score) : Nat := (scores.map (·.toInt.natAbs)).sum

theorem toInt_injective : Function.Injective toInt := fun _ _ h => Score.ext h

theorem magnitude_cons (a : Score) (rest : List Score) :
    magnitude (a :: rest) = a.toInt.natAbs + magnitude rest := rfl

theorem magnitude_eq_of_perm {as bs : List Score} (h : as.Perm bs) : magnitude as = magnitude bs :=
  (h.map _).sum_eq

theorem magnitude_le_of_sublist {as bs : List Score} (h : as.Sublist bs) :
    magnitude as ≤ magnitude bs := by
  induction h with
  | slnil => exact Nat.le_refl _
  | cons b _ ih => exact Nat.le_trans ih (Nat.le_add_left _ _)
  | cons_cons a _ ih => exact Nat.add_le_add_left ih _

theorem toInt_foldl_add (scores : List Score) (start : Score)
    (h : ((start.toInt.natAbs + magnitude scores : Nat) : Int) ≤ greatest.toInt) :
    (scores.foldl (· + ·) start).toInt = start.toInt + (scores.map toInt).sum := by
  have hgreatest : greatest.toInt = 9223372036854775807 := rfl
  induction scores generalizing start with
  | nil => simp
  | cons a rest ih =>
    rw [magnitude_cons] at h
    have hadd : (start + a).toInt = start.toInt + a.toInt := by
      rw [toInt_add]
      omega
    rw [List.foldl_cons, ih (start + a) (by rw [hadd]; omega), hadd, List.map_cons, List.sum_cons,
      Int.add_assoc]

/-- A sum whose magnitude lies in the range is exact. -/
theorem toInt_sum {scores : List Score} (h : (magnitude scores : Int) ≤ greatest.toInt) :
    (sum scores).toInt = (scores.map toInt).sum := by
  rw [sum, toInt_foldl_add scores 0 (by simpa using h)]
  simp

/-- The order of a sum does not matter while its magnitude lies in the range. -/
theorem sum_eq_of_perm {as bs : List Score} (h : as.Perm bs)
    (hrange : (magnitude as : Int) ≤ greatest.toInt) : sum as = sum bs := by
  apply toInt_injective
  rw [toInt_sum hrange, toInt_sum (magnitude_eq_of_perm h ▸ hrange)]
  exact (h.map _).sum_eq

end Score

end Percentile
