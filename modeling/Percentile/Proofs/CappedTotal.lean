import Percentile.Proofs.Drift
import Percentile.Proofs.Outcome
import Percentile.Proofs.Reordering

/-!
# What range and cap leave of a sum

The values of the applied modifiers are added up from the left. Every partial sum is moved back into
the range of scores, and the last one is moved between the cap and its opposite. This file compares
that with the exact sum.

**Losses.** A partial sum beyond an end of the range loses its excess. That only shows if a later
term leads back. Where no term does, the sum is *lossless*: it is the exact one, moved into the
range once (`sum_of_lossless`).

**Any order.** Positive and negative terms that fit the range side by side are *moderate*, and so
are terms of one sign. No order of them loses anything (`Moderate.lossless`), so the order does not
matter (`Moderate.sum_eq_of_perm`).

**Theorem (`total_is_capped_sum`).** The total is the saturating sum under the cap. It is the exact
sum under the cap if the sum is lossless, and it depends only on which values are applied if they
are moderate. Without such a condition both fail (`total_of_flood`).
-/

namespace Percentile

namespace Score

/-! ## Lossless sums -/

/-- The sum of scores as integers. -/
def exactSum (scores : List Score) : Int := (scores.map toInt).sum

theorem exactSum_cons (a : Score) (rest : List Score) :
    exactSum (a :: rest) = a.toInt + exactSum rest := List.sum_cons

/-- Where a partial sum from `start` lies beyond an end of the range, the next term does not lead
back. -/
def LosslessFrom (start : Int) (scores : List Score) : Prop :=
  ∀ i (h : i < scores.length),
    (greatest.toInt < start + exactSum (scores.take i) → 0 ≤ scores[i].toInt) ∧
    (start + exactSum (scores.take i) < least.toInt → scores[i].toInt ≤ 0)

/-- No term leads back from beyond the range. -/
def Lossless (scores : List Score) : Prop := LosslessFrom 0 scores

theorem losslessFrom_cons {start : Int} {a : Score} {rest : List Score}
    (h : LosslessFrom start (a :: rest)) :
    (greatest.toInt < start → 0 ≤ a.toInt) ∧ (start < least.toInt → a.toInt ≤ 0) ∧
      LosslessFrom (start + a.toInt) rest := by
  obtain ⟨hgreatest, hleast⟩ := h 0 (by simp)
  refine ⟨by simpa [exactSum] using hgreatest, by simpa [exactSum] using hleast, ?_⟩
  intro i hi
  have hnext := h (i + 1) (by simpa using hi)
  simpa [exactSum_cons, Int.add_assoc] using hnext

/-- A lossless sum keeps in step with the exact one, which is moved into the range at the end. -/
theorem foldl_add_of_losslessFrom {start : Int} {scores : List Score}
    (h : LosslessFrom start scores) :
    scores.foldl (· + ·) (clamp start) = clamp (start + exactSum scores) := by
  have hgreatest : greatest.toInt = 9223372036854775807 := rfl
  have hleast : least.toInt = -9223372036854775808 := rfl
  induction scores generalizing start with
  | nil => simp [exactSum]
  | cons a rest ih =>
    obtain ⟨hup, hdown, hrest⟩ := losslessFrom_cons h
    -- From beyond an end of the range the next term leads further away or nowhere.
    have hstep : clamp start + a = clamp (start + a.toInt) := by
      apply toInt_injective
      rw [toInt_add, toInt_clamp, toInt_clamp]
      omega
    rw [List.foldl_cons, hstep, ih hrest, exactSum_cons, Int.add_assoc]

/-- **A lossless sum is the exact one**, moved into the range once. -/
theorem sum_of_lossless {scores : List Score} (h : Lossless scores) :
    sum scores = clamp (exactSum scores) := by
  have hfoldl := foldl_add_of_losslessFrom h
  rwa [Int.zero_add] at hfoldl

/-! ## Moderate values -/

/-- The positive scores together fit the range if there are negative ones, and the negative ones if
there are positive ones. -/
def Moderate (scores : List Score) : Prop :=
  ((∃ a ∈ scores, a.toInt < 0) → pull toInt scores ≤ greatest.toInt) ∧
  ((∃ a ∈ scores, 0 < a.toInt) → pull (fun a => -a.toInt) scores ≤ -least.toInt)

instance (scores : List Score) : Decidable (Moderate scores) := by
  unfold Moderate
  infer_instance

theorem sum_le_pull (strength : Score → Int) (scores : List Score) :
    (scores.map strength).sum ≤ pull strength scores := by
  induction scores with
  | nil => exact Int.le_refl 0
  | cons a rest ih =>
    rw [List.map_cons, List.sum_cons, pull_cons]
    omega

theorem pull_take_le (strength : Score → Int) (scores : List Score) (i : Nat) :
    pull strength (scores.take i) ≤ pull strength scores := by
  have hsplit : pull strength scores =
      pull strength (scores.take i) + pull strength (scores.drop i) := by
    unfold pull
    rw [← List.sum_append, ← List.map_append, List.take_append_drop]
  have hdrop := pull_nonneg strength (scores.drop i)
  omega

theorem neg_exactSum (scores : List Score) :
    (scores.map fun a => -a.toInt).sum = -exactSum scores := by
  induction scores with
  | nil => rfl
  | cons a rest ih =>
    rw [List.map_cons, List.sum_cons, exactSum_cons, ih]
    omega

theorem Moderate.lossless {scores : List Score} (h : Moderate scores) : Lossless scores := by
  intro i hi
  have hmem : scores[i] ∈ scores := List.getElem_mem hi
  constructor
  · intro hbeyond
    by_contra hback
    have hpull := h.1 ⟨scores[i], hmem, by omega⟩
    have hsum : exactSum (scores.take i) ≤ _ := sum_le_pull toInt (scores.take i)
    have htake := pull_take_le toInt scores i
    omega
  · intro hbeyond
    by_contra hback
    have hpull := h.2 ⟨scores[i], hmem, by omega⟩
    have hsum := sum_le_pull (fun a => -a.toInt) (scores.take i)
    have htake := pull_take_le (fun a => -a.toInt) scores i
    rw [neg_exactSum] at hsum
    omega

theorem Moderate.perm {as bs : List Score} (hmoderate : Moderate as) (h : as.Perm bs) :
    Moderate bs := by
  have hpull : ∀ strength, pull strength as = pull strength bs := fun strength =>
    (h.map _).sum_eq
  unfold Moderate at hmoderate ⊢
  simpa only [hpull, h.mem_iff] using hmoderate

/-- **The order of moderate values does not matter** to their sum. -/
theorem Moderate.sum_eq_of_perm {as bs : List Score} (hmoderate : Moderate as) (h : as.Perm bs) :
    sum as = sum bs := by
  have hexact : exactSum as = exactSum bs := (h.map toInt).sum_eq
  rw [sum_of_lossless hmoderate.lossless, sum_of_lossless (hmoderate.perm h).lossless, hexact]

end Score

namespace Resolution

/-- **The total is a sum under a cap.** It is the sum of the applied values from the left, moved
into the range after each term, and then between the cap and its opposite. If no term leads back
from beyond the range, it is the exact sum of the applied values under the cap. If the applied
values are moderate, it depends only on which values are applied, in whatever order, and so not on
the order of the modifiers. -/
theorem total_is_capped_sum (ms : List Modifier) (options : RollOptions) (cap : Score)
    (hcap : 0 ≤ cap) :
    let r := resolve ms options cap
    let values := r.applied.map (·.value)
    r.total.toInt =
      max (-cap.toInt) (min (Score.saturatingSum (values.map (·.toInt))) cap.toInt) ∧
    (Score.Lossless values →
      r.total.toInt = max (-cap.toInt) (min (values.map (·.toInt)).sum cap.toInt)) ∧
    (Score.Moderate values →
      Score.Lossless values ∧
      (∀ ms' options', ((resolve ms' options' cap).applied.map (·.value)).Perm values →
        (resolve ms' options' cap).total = r.total) ∧
      ∀ ms', ms.Perm ms' → (resolve ms' options cap).total = r.total) := by
  intro r values
  have hnonneg : 0 ≤ cap.toInt := hcap
  have hgreatest := cap.le_greatest
  have htotal : r.total.toInt = max (-cap.toInt) (min (Score.sum values).toInt cap.toInt) := by
    show (Score.within cap (Score.sum values)).toInt = _
    rw [Score.toInt_within]
    omega
  have hsame : Score.Moderate values → ∀ ms' options',
      ((resolve ms' options' cap).applied.map (·.value)).Perm values →
        (resolve ms' options' cap).total = r.total := by
    intro hmoderate ms' options' hperm
    exact congrArg (Score.within cap) (hmoderate.sum_eq_of_perm hperm.symm).symm
  refine ⟨?_, ?_, fun hmoderate => ⟨hmoderate.lossless, hsame hmoderate, ?_⟩⟩
  · rw [htotal, Score.toInt_sum_eq_saturatingSum]
  · intro hlossless
    rw [htotal, Score.sum_of_lossless hlossless, Score.toInt_clamp]
    show _ = max _ (min (Score.exactSum values) _)
    omega
  · intro ms' hperm
    exact hsame hmoderate ms' options (perm_values hperm options cap).symm

/-! ### Ebb and flood

A tide that fills the range and ebbs by two small steps is moderate, and its total is exact in any
order. A flood that rises twice beyond the range before it falls is not.
-/

/-- Modifiers without conditions and groups. -/
def unconditional (values : List Score) : List Modifier :=
  values.map fun value => { label := "Warp Tide", value }

def ebb : List Score := [.greatest, .clamp (-20), .clamp (-50)]

def flood : List Score := [.greatest, .greatest, .least]

theorem total_is_capped_sum_ebb :
    (0 : Score) ≤ .greatest ∧ Score.Moderate ebb ∧
    (resolve (unconditional ebb) ∅ .greatest).total.toInt = 9223372036854775737 ∧
    (resolve (unconditional ebb.reverse) ∅ .greatest).total =
      (resolve (unconditional ebb) ∅ .greatest).total := by
  obtain ⟨_, hexact, hmoderate⟩ :=
    total_is_capped_sum (unconditional ebb) ∅ .greatest (by decide)
  obtain ⟨hlossless, _, horder⟩ := hmoderate (by decide +kernel)
  have hreverse : (unconditional ebb).Perm (unconditional ebb.reverse) := by
    unfold unconditional
    exact (List.reverse_perm ebb).symm.map _
  exact ⟨by decide, by decide, (hexact hlossless).trans (by decide +kernel), horder _ hreverse⟩

/-- **Saturation can show.** The values of the flood add up to almost the greatest score, which the
cap would cut to 60. But two of them together are cut to the greatest score first, and the third
leads from there to below zero. In the reverse order nothing is lost. -/
theorem total_of_flood :
    (resolve (unconditional flood) ∅ 60).total.toInt = -1 ∧
    max (-60) (min ((resolve (unconditional flood) ∅ 60).applied.map (·.value.toInt)).sum 60) = 60 ∧
    ((resolve (unconditional flood.reverse) ∅ 60).applied.map (·.value.toInt)).Perm
      ((resolve (unconditional flood) ∅ 60).applied.map (·.value.toInt)) ∧
    (resolve (unconditional flood.reverse) ∅ 60).total.toInt = 60 := by
  decide +kernel

end Resolution

end Percentile
