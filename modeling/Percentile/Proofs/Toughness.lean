import Mathlib.Algebra.BigOperators.Group.List.Basic
import Mathlib.Algebra.Ring.Parity
import Percentile.Proofs.CappedTotal
import Percentile.Synthetics

/-!
# What adjustments make of toughness

The adjustments of a character's toughness are summands and factors in any order. The summands are
added to the base first, and then the factors multiply it, each time with saturation. This file says
how the result depends on the base, and when it is the exact product.

**Direction.** Multiplying by a factor keeps the order of scores or, if the factor is negative,
turns it round. Saturation at either end of the range keeps it. So the negative factors decide by
their number whether toughness follows the base or runs against it (`Score.foldl_mul_le`).

**Exactness.** What lies beyond the range stays beyond it under a positive factor, and comes to
zero, like all else, under the factor zero. So saturating after each factor is as good as
saturating once (`Score.foldl_mul_clamp`). A negative factor would lead back from the wrong place.

**Theorem (`toughness_follows_base`).** Both hold of toughness, and of the adjustments only the
values of the summands and of the factors count.
-/

namespace Percentile

namespace Score

variable {a b c : Score} {factors : List Score}

/-! ## Summands -/

/-- Every running sum of the scores from a start, up to that of all of them, lies in the range. -/
def StaysInRange (start : Int) (scores : List Score) : Prop :=
  ∀ k ≤ scores.length, least.toInt ≤ start + exactSum (scores.take k) ∧
    start + exactSum (scores.take k) ≤ greatest.toInt

instance (start : Int) (scores : List Score) : Decidable (StaysInRange start scores) := by
  unfold StaysInRange
  infer_instance

theorem foldl_add_of_staysInRange {base : Score} {scores : List Score}
    (h : StaysInRange base.toInt scores) :
    scores.foldl (· + ·) base = clamp (base.toInt + exactSum scores) := by
  have hlossless : LosslessFrom base.toInt scores := by
    intro k hk
    obtain ⟨hleast, hgreatest⟩ := h k (Nat.le_of_lt hk)
    exact ⟨fun hbeyond => by omega, fun hbeyond => by omega⟩
  rw [← foldl_add_of_losslessFrom hlossless, clamp_toInt]

/-! ## Factors and order -/

theorem mul_le_mul_of_nonneg (hc : 0 ≤ c) (h : a ≤ b) : a * c ≤ b * c := by
  rw [le_iff] at h
  rw [le_iff, toInt_zero] at hc
  have hmul := Int.mul_le_mul_of_nonneg_right h hc
  rw [le_iff, toInt_mul, toInt_mul]
  omega

theorem mul_le_mul_of_nonpos (hc : c ≤ 0) (h : a ≤ b) : b * c ≤ a * c := by
  rw [le_iff] at h
  rw [le_iff, toInt_zero] at hc
  have hmul := Int.mul_le_mul_of_nonpos_right h hc
  rw [le_iff, toInt_mul, toInt_mul]
  omega

/-- How many of the factors turn the order of scores round. -/
def flips (factors : List Score) : Nat := factors.countP (· < 0)

theorem flips_cons_of_neg (hc : c < 0) : flips (c :: factors) = flips factors + 1 := by
  simp [flips, hc]

theorem flips_cons_of_not_neg (hc : ¬ c < 0) : flips (c :: factors) = flips factors := by
  simp [flips, hc]

/-- **The order after all factors** is the order before them, or the opposite one. -/
theorem foldl_mul_le (factors : List Score) (h : a ≤ b) :
    (Even (flips factors) → factors.foldl (· * ·) a ≤ factors.foldl (· * ·) b) ∧
    (Odd (flips factors) → factors.foldl (· * ·) b ≤ factors.foldl (· * ·) a) := by
  induction factors generalizing a b with
  | nil => exact ⟨fun _ => h, fun hodd => absurd hodd (by decide)⟩
  | cons c rest ih =>
    by_cases hc : c < 0
    · have hnonpos : c ≤ 0 := Int.le_of_lt hc
      obtain ⟨heven, hodd⟩ := ih (mul_le_mul_of_nonpos hnonpos h)
      rw [flips_cons_of_neg hc, Nat.even_add_one, Nat.odd_add_one, Nat.not_even_iff_odd,
        Nat.not_odd_iff_even]
      exact ⟨hodd, heven⟩
    · have hnonneg : 0 ≤ c := Int.not_lt.1 hc
      rw [flips_cons_of_not_neg hc]
      exact ih (mul_le_mul_of_nonneg hnonneg h)

/-! ## Factors and the range -/

/-- **A factor that is not negative** may come before or after the saturation. -/
theorem clamp_mul (n : Int) (hc : 0 ≤ c) : clamp n * c = clamp (n * c.toInt) := by
  rw [le_iff, toInt_zero] at hc
  apply toInt_injective
  rw [toInt_mul, toInt_clamp, toInt_clamp]
  by_cases hzero : c.toInt = 0
  · rw [hzero, Int.mul_zero, Int.mul_zero]
  have hone : 1 ≤ c.toInt := by omega
  -- A positive factor leads away from zero, so what is beyond an end of the range stays there.
  by_cases hhigh : 9223372036854775807 < n
  · have hclamped : max (-9223372036854775808) (min n 9223372036854775807) =
        (9223372036854775807 : Int) := by omega
    have hfar := Int.mul_le_mul_of_nonneg_left hone (by omega : 0 ≤ n)
    have hend := Int.mul_le_mul_of_nonneg_left hone (by decide : (0 : Int) ≤ 9223372036854775807)
    rw [hclamped]
    omega
  by_cases hlow : n < -9223372036854775808
  · have hclamped : max (-9223372036854775808) (min n 9223372036854775807) =
        (-9223372036854775808 : Int) := by omega
    have hfar := Int.mul_le_mul_of_nonpos_left (by omega : n ≤ 0) hone
    have hend := Int.mul_le_mul_of_nonpos_left (by decide : (-9223372036854775808 : Int) ≤ 0) hone
    rw [hclamped]
    omega
  · have hclamped : max (-9223372036854775808) (min n 9223372036854775807) = n := by omega
    rw [hclamped]

/-- **Saturating after each factor** is as good as saturating once. -/
theorem foldl_mul_clamp (hfactors : ∀ c ∈ factors, 0 ≤ c) (n : Int) :
    factors.foldl (· * ·) (clamp n) = clamp (n * (factors.map toInt).prod) := by
  induction factors generalizing n with
  | nil => simp
  | cons c rest ih =>
    have hrest : ∀ d ∈ rest, 0 ≤ d := fun d hd => hfactors d (List.mem_cons_of_mem c hd)
    rw [List.foldl_cons, clamp_mul n (hfactors c List.mem_cons_self), ih hrest, List.map_cons,
      List.prod_cons, Int.mul_assoc]

end Score

namespace Synthetics

/-- The values of the adjustments that are added, in their order. -/
def summands (s : Synthetics) : List Score :=
  (s.toughnessAdjustments.filter (·.mode == .add)).map (·.value)

/-- The values of the adjustments that multiply, in their order. -/
def factors (s : Synthetics) : List Score :=
  (s.toughnessAdjustments.filter (·.mode == .multiply)).map (·.value)

theorem toughness_eq (s : Synthetics) (base : Score) :
    s.toughness base = s.factors.foldl (· * ·) (s.summands.foldl (· + ·) base) := by
  unfold toughness factors summands
  rw [List.foldl_map, List.foldl_map]

/-- **Toughness follows its base.** It depends on the values of the summands and on those of the
factors alone. With an even number of negative factors a higher base gives no lower toughness, and
with an odd number no higher one. If every running sum of the summands from the base is a score and
no factor is negative, toughness is the exact product of the sum and the factors, moved into the
range. -/
theorem toughness_follows_base (s : Synthetics) :
    (∀ s' : Synthetics, s'.summands = s.summands → s'.factors = s.factors →
      ∀ base, s'.toughness base = s.toughness base) ∧
    (∀ base base', base ≤ base' →
      (Even (Score.flips s.factors) → s.toughness base ≤ s.toughness base') ∧
      (Odd (Score.flips s.factors) → s.toughness base' ≤ s.toughness base)) ∧
    ∀ base : Score, Score.StaysInRange base.toInt s.summands → (∀ c ∈ s.factors, 0 ≤ c) →
      s.toughness base = .clamp
        ((base.toInt + (s.summands.map (·.toInt)).sum) * (s.factors.map (·.toInt)).prod) := by
  refine ⟨?_, ?_, ?_⟩
  · intro s' hsummands hfactors base
    rw [toughness_eq, toughness_eq, hsummands, hfactors]
  · intro base base' h
    rw [toughness_eq, toughness_eq]
    exact Score.foldl_mul_le s.factors (Score.foldl_add_mono s.summands h)
  · intro base hsummands hfactors
    rw [toughness_eq, Score.foldl_add_of_staysInRange hsummands]
    exact Score.foldl_mul_clamp hfactors _

/-! ### The hides of daemons

The hide of a daemon multiplies its toughness beyond the range, and banishing it brings that to zero
nevertheless. A curse turns toughness round, so that of the toughest daemon becomes the least. A
second curse turns it back, up to the one score that the first one could not tell from its
neighbour.
-/

/-- The synthetics of a daemon whose mutations change its toughness. -/
def mutated (mutations : List (ToughnessMode × Score)) : Synthetics where
  toughnessAdjustments := mutations.map fun (mode, value) => ⟨value, mode, "Mutation"⟩

def banished : Synthetics :=
  mutated [(.multiply, .greatest), (.add, 5), (.multiply, 2), (.add, .clamp (-15)), (.multiply, 0)]

/-- The same mutations in another order. -/
def banishedFirst : Synthetics :=
  mutated [(.add, 5), (.add, .clamp (-15)), (.multiply, .greatest), (.multiply, 2), (.multiply, 0)]

def cursed (times : Nat) : Synthetics := mutated (List.replicate times (.multiply, .clamp (-1)))

theorem toughness_follows_base_daemons :
    (banishedFirst.summands = banished.summands ∧ banishedFirst.factors = banished.factors ∧
      banishedFirst.toughness 30 = banished.toughness 30) ∧
    (Odd (Score.flips (cursed 1).factors) ∧
      (cursed 1).toughness .greatest ≤ (cursed 1).toughness .least) ∧
    (Even (Score.flips (cursed 2).factors) ∧
      (cursed 2).toughness .least ≤ (cursed 2).toughness .greatest) ∧
    (Score.StaysInRange 30 banished.summands ∧ (∀ c ∈ banished.factors, 0 ≤ c) ∧
      banished.toughness 30 = 0) := by
  obtain ⟨horder, -, hexact⟩ := toughness_follows_base banished
  obtain ⟨-, honce, -⟩ := toughness_follows_base (cursed 1)
  obtain ⟨-, htwice, -⟩ := toughness_follows_base (cursed 2)
  have hodd : Odd (Score.flips (cursed 1).factors) := by decide +kernel
  have heven : Even (Score.flips (cursed 2).factors) := by decide +kernel
  have hsummands : Score.StaysInRange 30 banished.summands := by decide +kernel
  have hfactors : ∀ c ∈ banished.factors, 0 ≤ c := by decide +kernel
  exact ⟨⟨rfl, rfl, horder banishedFirst rfl rfl 30⟩,
    ⟨hodd, (honce .least .greatest (by decide)).2 hodd⟩,
    ⟨heven, (htwice .least .greatest (by decide)).1 heven⟩,
    ⟨hsummands, hfactors, (hexact 30 hsummands hfactors).trans (by decide +kernel)⟩⟩

end Synthetics

end Percentile
