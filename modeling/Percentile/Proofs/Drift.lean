import Mathlib.Algebra.Ring.Int.Defs
import Percentile.Score

/-!
# How far a sum moves

Two saturating sums over nearly the same terms can differ in every partial sum. This file bounds how
far apart they end.

**Gentle functions** keep the order of scores and do not enlarge their distances. Adding a score on
either side is gentle, and so is moving a score into an interval. What is done to both of two scores
therefore leaves them as close as they were (`Gentle.drift`).

**Exchange** (`drift_exchange`). A sum may lose some terms of one sign and gain one that is at
least as large as they are together. Then it moves in the direction of the new term, by no more
than it.

**Theorem (`drift_foldl_filter`).** A term that is left out of a sum moves it against the sign of
the term, and by no more than the term. Several such terms move it, in either direction, by no more
than those of one sign together.
-/

namespace Percentile

namespace Score

/-! ## Gentle functions -/

/-- The second score lies at least `lo` and at most `hi` above the first. -/
def Drift (lo hi : Int) (a b : Score) : Prop :=
  lo ≤ b.toInt - a.toInt ∧ b.toInt - a.toInt ≤ hi

/-- A function that keeps the order of scores and does not enlarge their distances. -/
def Gentle (f : Score → Score) : Prop :=
  ∀ a b : Score, a ≤ b → f a ≤ f b ∧ (f b).toInt - (f a).toInt ≤ b.toInt - a.toInt

theorem gentle_add (c : Score) : Gentle (· + c) := by
  intro a b h
  rw [le_iff] at h
  simp only [le_iff, toInt_add]
  omega

theorem gentle_add_left (c : Score) : Gentle (c + ·) := by
  intro a b h
  rw [le_iff] at h
  simp only [le_iff, toInt_add]
  omega

theorem gentle_max (floor : Score) : Gentle (max · floor) := by
  intro a b h
  rw [le_iff] at h
  simp only [le_iff, toInt_max]
  omega

theorem toInt_within (cap a : Score) :
    (within cap a).toInt = max (-(max cap.toInt 0)) (min a.toInt (max cap.toInt 0)) := by
  have hcap := cap.le_greatest
  rw [within, toInt_clamp]
  omega

theorem gentle_within (cap : Score) : Gentle (within cap) := by
  intro a b h
  rw [le_iff] at h
  simp only [le_iff, toInt_within]
  omega

theorem Gentle.comp {f g : Score → Score} (hf : Gentle f) (hg : Gentle g) :
    Gentle fun a => f (g a) := by
  intro a b h
  obtain ⟨hle, hdist⟩ := hg a b h
  obtain ⟨hle', hdist'⟩ := hf (g a) (g b) hle
  exact ⟨hle', Int.le_trans hdist' hdist⟩

/-- A sum keeps the order of the scores that it starts from. -/
theorem foldl_add_mono (scores : List Score) {a b : Score} (h : a ≤ b) :
    scores.foldl (· + ·) a ≤ scores.foldl (· + ·) b := by
  induction scores generalizing a b with
  | nil => exact h
  | cons c rest ih => exact ih (gentle_add c a b h).1

/-- **A gentle function keeps a drift within its bounds**, if they allow standing still. -/
theorem Gentle.drift {f : Score → Score} (hf : Gentle f) {lo hi : Int} (hlo : lo ≤ 0)
    (hhi : 0 ≤ hi) {a b : Score} (h : Drift lo hi a b) : Drift lo hi (f a) (f b) := by
  obtain ⟨hlower, hupper⟩ := h
  unfold Drift
  by_cases hab : a ≤ b
  · obtain ⟨hle, hdist⟩ := hf a b hab
    rw [le_iff] at hle
    omega
  · have hba : b ≤ a := by
      rw [le_iff] at hab ⊢
      omega
    obtain ⟨hle, hdist⟩ := hf b a hba
    rw [le_iff] at hle
    omega

/-- **Exchange.** A sum that falls back by some part of a score, and then takes up the whole of it,
moves forward by the other part. -/
theorem drift_exchange {kept whole v : Score}
    (h : Drift (min v.toInt 0) (max v.toInt 0) kept whole) :
    Drift (min v.toInt 0) (max v.toInt 0) whole (kept + v) := by
  obtain ⟨hlower, hupper⟩ := h
  have hleast := whole.least_le
  have hgreatest := whole.le_greatest
  rw [Drift, toInt_add]
  omega

/-! ## Sums with terms left out -/

/-- What the scores that are strong in a direction amount to together. -/
def pull (strength : Score → Int) (scores : List Score) : Int :=
  (scores.map fun a => max (strength a) 0).sum

theorem pull_cons (strength : Score → Int) (a : Score) (rest : List Score) :
    pull strength (a :: rest) = max (strength a) 0 + pull strength rest := by
  simp [pull]

theorem pull_nonneg (strength : Score → Int) (scores : List Score) : 0 ≤ pull strength scores := by
  induction scores with
  | nil => exact Int.le_refl 0
  | cons a rest ih =>
    rw [pull_cons]
    omega

/-- Scores of which at most one is strong pull no more than a single one can. -/
theorem pull_le {strength : Score → Int} {scores : List Score} {bound : Int} (hbound : 0 ≤ bound)
    (hle : ∀ a ∈ scores, strength a ≤ bound)
    (hone : scores.Pairwise fun a b => 0 < strength a → strength b ≤ 0) :
    pull strength scores ≤ bound := by
  induction scores generalizing bound with
  | nil => exact hbound
  | cons a rest ih =>
    obtain ⟨hhead, htail⟩ := List.pairwise_cons.1 hone
    rw [pull_cons]
    by_cases ha : 0 < strength a
    · have hrest := ih (Int.le_refl 0) (fun b hb => hhead b hb ha) htail
      have hfirst := hle a (by simp)
      omega
    · have hrest := ih hbound (fun b hb => hle b (by simp [hb])) htail
      omega

/-- **Leaving terms out of a sum.** The whole sum lies above the sum of the terms that stay by no
more than the positive terms left out pull, and below it by no more than the negative ones do. -/
theorem drift_foldl_filter {α : Type} (value : α → Score) (stays : α → Bool) (as : List α)
    {a b : Score} {lo hi : Int} (hlo : lo ≤ 0) (hhi : 0 ≤ hi) (h : Drift lo hi a b) :
    Drift (lo - pull (fun v => -v.toInt) ((as.filter (!stays ·)).map value))
      (hi + pull toInt ((as.filter (!stays ·)).map value))
      (((as.filter stays).map value).foldl (· + ·) a) ((as.map value).foldl (· + ·) b) := by
  induction as generalizing a b lo hi with
  | nil => simpa [pull] using h
  | cons x rest ih =>
    by_cases hx : stays x = true
    · -- Both sums take the term up.
      have hstep := ih hlo hhi ((gentle_add (value x)).drift hlo hhi h)
      simpa [hx] using hstep
    · -- Only the whole sum takes the term up.
      have hmove : Drift (lo - max (-(value x).toInt) 0) (hi + max (value x).toInt 0) a
          (b + value x) := by
        obtain ⟨hlower, hupper⟩ := h
        have hleast := b.least_le
        have hgreatest := b.le_greatest
        rw [Drift, toInt_add]
        omega
      have hstep := ih (by omega) (by omega) hmove
      simp only [hx, Bool.false_eq_true, not_false_eq_true, List.filter_cons_of_neg,
        Bool.not_false, List.filter_cons_of_pos, List.map_cons, pull_cons, List.foldl_cons]
      rwa [Int.sub_sub, Int.add_assoc] at hstep

end Score

end Percentile
