import Percentile.Check.Engine

/-!
# What a roll comes to

This file works out the result of a check in exact integers, from the number rolled and what the
pending check holds.

**No arithmetic saturates on the way to the degrees** (`degrees_ofRoll`). The target is at least one
and the roll is a face of the die, so their distance is a score. Only the target itself, and the
degrees once they are adjusted, can be moved to an end of the range.

**The bare outcome decides** (`succeeds_iff`). Whether the check succeeds follows from the roll and
the target. The adjustments that fire are chosen by it, and their amounts change the degrees alone.

**Theorem (`finish_computes_outcome`).** The target, the success, the degrees before and after the
adjustments, and the adjustments themselves, each as one formula.
-/

namespace Percentile

namespace Score

theorem toInt_one : (1 : Score).toInt = 1 := rfl

/-- The sum of integers, moved to the nearest end of the range of scores after each term. -/
def saturatingSum (ns : List Int) : Int :=
  ns.foldl (fun total n => max (-9223372036854775808) (min (total + n) 9223372036854775807)) 0

theorem toInt_sum_eq_saturatingSum (scores : List Score) :
    (sum scores).toInt = saturatingSum (scores.map toInt) := by
  have hfoldl : ∀ start : Score, (scores.foldl (· + ·) start).toInt =
      (scores.map toInt).foldl
        (fun total n => max (-9223372036854775808) (min (total + n) 9223372036854775807))
        start.toInt := by
    induction scores with
    | nil => exact fun start => rfl
    | cons a rest ih => exact fun start => ih (start + a)
  exact hfoldl 0

end Score

namespace Outcome

/-- A roll succeeds if it is a natural 1, or else no natural 100 and at most the target. -/
theorem succeeds_iff {roll target : Score} :
    succeeds roll target = true ↔
      roll.toInt = 1 ∨ (roll.toInt ≠ 100 ∧ roll.toInt ≤ target.toInt) := by
  have hone : roll = naturalSuccess ↔ roll.toInt = 1 := Score.ext_iff
  have hhundred : roll = naturalFailure ↔ roll.toInt = 100 := Score.ext_iff
  unfold succeeds
  simp only [hone, hhundred, Score.le_iff]
  by_cases h1 : roll.toInt = 1
  · simp [h1]
  · by_cases h100 : roll.toInt = 100
    · simp [h100]
    · simp [h1, h100]

variable {roll target : Score}

/-- The points by which a roll makes or misses the target: their distance, except that a natural 100
misses no target that it could have made. -/
theorem toInt_margin (hlow : 1 ≤ roll.toInt) (hhigh : roll.toInt ≤ 100)
    (htarget : 1 ≤ target.toInt) :
    (max (if succeeds roll target then target - roll else roll - target) 0).toInt =
      if roll.toInt = 100 ∧ 100 ≤ target.toInt then 0
      else ((target.toInt - roll.toInt).natAbs : Int) := by
  have hgreatest := target.le_greatest
  by_cases hsuccess : succeeds roll target = true
  · have hmade := succeeds_iff.1 hsuccess
    rw [if_pos hsuccess, Score.toInt_max, Score.toInt_sub, Score.toInt_zero, if_neg (by omega)]
    omega
  · have hmissed := mt succeeds_iff.2 hsuccess
    rw [if_neg hsuccess, Score.toInt_max, Score.toInt_sub, Score.toInt_zero]
    split <;> omega

/-- **The degrees of a roll** count one, and one more for every full ten points. -/
theorem degrees_ofRoll (hlow : 1 ≤ roll.toInt) (hhigh : roll.toInt ≤ 100)
    (htarget : 1 ≤ target.toInt) :
    (ofRoll roll target).degrees.toInt =
      if roll.toInt = 100 ∧ 100 ≤ target.toInt then 1
      else 1 + ((target.toInt - roll.toInt).natAbs : Int) / 10 := by
  have hgreatest := target.le_greatest
  show (1 + Score.divFloor _ 10 : Score).toInt = _
  rw [Score.toInt_add, Score.toInt_divFloor _ 10 (by decide), toInt_margin hlow hhigh htarget,
    Score.toInt_one]
  split <;> omega

theorem toInt_degrees_adjusted (o : Outcome) (amount : Score) :
    (o.adjusted amount).degrees.toInt =
      max 0 (min (o.degrees.toInt + amount.toInt) 9223372036854775807) := by
  rw [adjusted, Score.toInt_max, Score.toInt_add, Score.toInt_zero]
  omega

end Outcome

namespace PendingCheck

variable (p : PendingCheck)

theorem toInt_previewTarget :
    p.previewTarget.toInt =
      max 1 (min (p.baseTarget.toInt + p.preview.total.toInt) 9223372036854775807) := by
  rw [previewTarget, Score.toInt_max, Score.toInt_add, Score.toInt_one]
  omega

theorem one_le_previewTarget : 1 ≤ p.previewTarget.toInt := by
  rw [toInt_previewTarget]
  omega

end PendingCheck

namespace Engine

open Outcome

/-- **The result of a check in exact integers.** The adjustments that fire are those whose predicate
passes with the bare outcome among the roll options. They move the degrees by the saturating sum of
their amounts, down to zero at most, and never decide whether the check succeeds. -/
theorem finish_computes_outcome {σ : Type} [DieRoller σ] (e : Engine) (p : PendingCheck) (dice : σ)
    (roll : Nat) (hface : (DieRoller.d100 dice).1.toNat = roll) (hlow : 1 ≤ roll)
    (hhigh : roll ≤ 100) :
    let r := (e.finish p dice).1
    let seen := p.rollOptions.insert (if r.success then "check:success" else "check:failure")
    let fired := p.adjustments.filter (·.predicate.test seen)
    r.roll.toInt = roll ∧
    r.target.toInt =
      max 1 (min (p.baseTarget.toInt + r.modifierTotal.toInt) 9223372036854775807) ∧
    (r.success = true ↔ roll = 1 ∨ (roll ≠ 100 ∧ (roll : Int) ≤ r.target.toInt)) ∧
    r.unadjustedDegrees.toInt =
      (if roll = 100 ∧ 100 ≤ r.target.toInt then 1
        else 1 + ((r.target.toInt - roll).natAbs : Int) / 10) ∧
    r.adjustments = fired.map (·.source) ∧
    r.degrees.toInt =
      max 0 (min (r.unadjustedDegrees.toInt + Score.saturatingSum (fired.map (·.amount.toInt)))
        9223372036854775807) ∧
    ∀ adjustments, (e.finish { p with adjustments } dice).1.success = r.success := by
  intro r seen fired
  have hr : r = p.result (.clamp roll) := by rw [← hface]; rfl
  have hroll : (Score.clamp roll).toInt = roll := by
    rw [Score.toInt_clamp]
    omega
  have htarget : r.target = p.previewTarget := by rw [hr]; rfl
  have hsuccess : r.success = succeeds (.clamp roll) p.previewTarget := by rw [hr]; rfl
  have hbare : r.unadjustedDegrees = (ofRoll (.clamp roll) p.previewTarget).degrees := by
    rw [hr]
    rfl
  have hfired : fired = p.firing r.success := rfl
  have hfinal : r.degrees = ((ofRoll (.clamp roll) p.previewTarget).adjusted
      (.sum (fired.map (·.amount)))).degrees := by
    rw [hfired, hr]
    rfl
  refine ⟨?_, ?_, ?_, ?_, ?_, ?_, ?_⟩
  · rw [hr]
    exact hroll
  · rw [htarget, p.toInt_previewTarget, hr]
    rfl
  · rw [hsuccess, succeeds_iff, hroll, htarget]
    omega
  · rw [hbare, degrees_ofRoll (by omega) (by omega) p.one_le_previewTarget, hroll, htarget]
    norm_cast
  · rw [hfired, hr]
    rfl
  · rw [hfinal, toInt_degrees_adjusted, hbare, Score.toInt_sum_eq_saturatingSum, List.map_map]
    rfl
  · intro adjustments
    rfl

/-! ### A leap

The target is 130. A natural 100 fails by no points and sprawls. A roll of 37 succeeds by nine times
ten points, of which a heavy pack leaves nothing, and is a success still.
-/

def leap : PendingCheck where
  actor := default
  label := "Leap"
  domain := ⟨"characteristic:ag"⟩
  baseTarget := 150
  modifiers := [{ label := "Wet Stone", value := .clamp (-20) }]
  rollOptions := ∅
  adjustments :=
    [⟨2, .atom "check:failure", "Sprawling"⟩, ⟨.clamp (-40), .atom "check:success", "Heavy Pack"⟩]
  cap := 60

/-- The result of the leap with a number rolled. -/
def leapWith (roll : UInt32) : CheckResult :=
  (finish {} leap (ScriptedDice.mk [roll] (.ofSeed 0))).1

theorem finish_computes_outcome_leaps :
    ((leapWith 100).success = false ∧ (leapWith 100).unadjustedDegrees.toInt = 1 ∧
      (leapWith 100).adjustments = ["Sprawling"] ∧ (leapWith 100).degrees.toInt = 3) ∧
    ((leapWith 37).success = true ∧ (leapWith 37).unadjustedDegrees.toInt = 10 ∧
      (leapWith 37).adjustments = ["Heavy Pack"] ∧ (leapWith 37).degrees.toInt = 0) := by
  obtain ⟨_, _, _, hmissed, _⟩ := finish_computes_outcome {} leap
    (ScriptedDice.mk [100] (.ofSeed 0)) 100 (by decide +kernel) (by decide) (by decide)
  obtain ⟨_, _, hmade, _⟩ := finish_computes_outcome {} leap
    (ScriptedDice.mk [37] (.ofSeed 0)) 37 (by decide +kernel) (by decide) (by decide)
  refine ⟨⟨by decide +kernel, hmissed.trans (by decide +kernel), by decide +kernel,
    by decide +kernel⟩, hmade.2 (.inr (by decide +kernel)), by decide +kernel, by decide +kernel,
    by decide +kernel⟩

end Engine

end Percentile
