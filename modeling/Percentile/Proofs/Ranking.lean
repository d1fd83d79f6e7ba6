import Percentile.Proofs.Outcome

/-!
# How outcomes rank

Opposed checks compare signed degrees: those of a success as they are, and those of a failure with a
minus sign. This file says which outcomes that puts in order.

**Bare outcomes** have at least one degree, so their sign tells a success from a failure. Among
themselves successes and failures rank by the margin between roll and target
(`signed_ofRoll_le`), also where it is too large for a score.

**Theorem (`bare_outcome_monotone`).** A higher target never ranks lower, and neither does a lower
face of the die. The natural rolls fit in, because they are the first and the last face.

**Adjusted outcomes** may have no degrees left, and zero has no sign.

**Theorem (`failure_below_success_iff`).** So a failure ranks below a success unless both are down
to zero, and then they tie.
-/

namespace Percentile

namespace Outcome

variable {roll roll' target target' : Score}

/-! ## Signed degrees -/

theorem toInt_signed {o : Outcome} (h : 0 ≤ o.degrees) :
    o.signed.toInt = if o.success then o.degrees.toInt else -o.degrees.toInt := by
  rw [Score.le_iff, Score.toInt_zero] at h
  unfold signed
  cases o.success with
  | true => rfl
  | false =>
    apply Score.toInt_opposite
    rw [Score.lt_iff, Score.toInt_least]
    omega

/-- Successes rank by their degrees, failures the other way round, and no failure above a
success. -/
theorem signed_le_signed {a b : Outcome} (ha : 0 ≤ a.degrees) (hb : 0 ≤ b.degrees)
    (hsuccess : a.success = true → b.success = true)
    (hmade : a.success = true → a.degrees ≤ b.degrees)
    (hmissed : b.success = false → b.degrees ≤ a.degrees) : a.signed ≤ b.signed := by
  rw [Score.le_iff, toInt_signed ha, toInt_signed hb]
  simp only [Score.le_iff, Score.toInt_zero] at ha hb hmade hmissed
  cases hsa : a.success with
  | true =>
    rw [hsuccess hsa, if_pos rfl, if_pos rfl]
    exact hmade hsa
  | false =>
    cases hsb : b.success with
    | true =>
      simp only [Bool.false_eq_true, if_false, if_true]
      omega
    | false =>
      have hle := hmissed hsb
      simp only [Bool.false_eq_true, if_false]
      omega

/-! ## Bare outcomes -/

theorem success_ofRoll (roll target : Score) :
    (ofRoll roll target).success = succeeds roll target := rfl

/-- The degrees of any roll against any target, also of a number that no die shows. -/
theorem toInt_degrees_ofRoll (roll target : Score) :
    (ofRoll roll target).degrees.toInt = 1 + max 0 (min
      (if succeeds roll target then target.toInt - roll.toInt else roll.toInt - target.toInt)
      9223372036854775807) / 10 := by
  have hmargin : (max (if succeeds roll target then target - roll else roll - target) 0).toInt =
      max 0 (min
        (if succeeds roll target then target.toInt - roll.toInt else roll.toInt - target.toInt)
        9223372036854775807) := by
    rw [Score.toInt_max, Score.toInt_zero]
    split
    · rw [Score.toInt_sub]
      omega
    · rw [Score.toInt_sub]
      omega
  show (1 + Score.divFloor _ 10 : Score).toInt = _
  rw [Score.toInt_add, Score.toInt_divFloor _ 10 (by decide), hmargin, Score.toInt_one]
  omega

theorem degrees_ofRoll_pos (roll target : Score) : 0 < (ofRoll roll target).degrees := by
  rw [Score.lt_iff, toInt_degrees_ofRoll, Score.toInt_zero]
  omega

theorem degrees_ofRoll_nonneg (roll target : Score) : 0 ≤ (ofRoll roll target).degrees := by
  have hpos := degrees_ofRoll_pos roll target
  rw [Score.lt_iff] at hpos
  rw [Score.le_iff]
  omega

/-- **Rolls rank by their margin**, as long as the larger margin does not turn a success into a
failure. -/
theorem signed_ofRoll_le
    (hsuccess : succeeds roll target = true → succeeds roll' target' = true)
    (hmargin : target.toInt - roll.toInt ≤ target'.toInt - roll'.toInt) :
    (ofRoll roll target).signed ≤ (ofRoll roll' target').signed := by
  refine signed_le_signed (degrees_ofRoll_nonneg _ _) (degrees_ofRoll_nonneg _ _) hsuccess ?_ ?_
  · intro hmade
    rw [success_ofRoll] at hmade
    rw [Score.le_iff, toInt_degrees_ofRoll, toInt_degrees_ofRoll, if_pos hmade,
      if_pos (hsuccess hmade)]
    omega
  · intro hmissed
    rw [success_ofRoll, Bool.eq_false_iff] at hmissed
    rw [Score.le_iff, toInt_degrees_ofRoll, toInt_degrees_ofRoll, if_neg hmissed,
      if_neg (mt hsuccess hmissed)]
    omega

/-- A roll that makes a target makes every higher one. -/
theorem succeeds_of_le_target (h : target ≤ target') (hmade : succeeds roll target = true) :
    succeeds roll target' = true := by
  rw [Score.le_iff] at h
  rw [succeeds_iff] at hmade ⊢
  omega

/-- A lower face of the die makes every target that a higher one makes. -/
theorem succeeds_of_le_roll (hlow : 1 ≤ roll) (h : roll ≤ roll') (hhigh : roll' ≤ 100)
    (hmade : succeeds roll' target = true) : succeeds roll target = true := by
  have hhundred : (100 : Score).toInt = 100 := rfl
  rw [Score.le_iff, Score.toInt_one] at hlow
  rw [Score.le_iff, hhundred] at hhigh
  rw [Score.le_iff] at h
  rw [succeeds_iff] at hmade ⊢
  omega

end Outcome

/-! ## Checks -/

/-- The outcome of a check before adjustments. -/
def CheckResult.bareOutcome (r : CheckResult) : Outcome := ⟨r.success, r.unadjustedDegrees⟩

theorem PendingCheck.previewTarget_mono (p : PendingCheck) {base : Score}
    (h : p.baseTarget ≤ base) : p.previewTarget ≤ { p with baseTarget := base }.previewTarget := by
  have hpreview : { p with baseTarget := base }.preview = p.preview := rfl
  rw [Score.le_iff] at h ⊢
  rw [toInt_previewTarget, toInt_previewTarget, hpreview]
  show max 1 (min (p.baseTarget.toInt + _) _) ≤ max 1 (min (base.toInt + _) _)
  omega

namespace Engine

open Outcome

/-- **Outcomes rank by target and roll.** With a higher target a roll ranks no lower, whatever the
numbers, and a lower face of the die ranks no lower against any target. So a check with a higher
base target has a target at least as high, and before adjustments it ranks at least as high for the
same number rolled. -/
theorem bare_outcome_monotone :
    (∀ roll target target' : Score, target ≤ target' →
      (ofRoll roll target).signed ≤ (ofRoll roll target').signed ∧
      ((ofRoll roll target).success = true → (ofRoll roll target').success = true)) ∧
    (∀ target roll roll' : Score, 1 ≤ roll → roll ≤ roll' → roll' ≤ 100 →
      (ofRoll roll' target).signed ≤ (ofRoll roll target).signed) ∧
    ∀ {σ τ : Type} [DieRoller σ] [DieRoller τ] (e e' : Engine) (dice : σ) (dice' : τ)
      (p : PendingCheck) (base : Score), p.baseTarget ≤ base →
      (DieRoller.d100 dice).1 = (DieRoller.d100 dice').1 →
      let r := (e.finish p dice).1
      let r' := (e'.finish { p with baseTarget := base } dice').1
      r.target ≤ r'.target ∧ (r.success = true → r'.success = true) ∧
        r.bareOutcome.signed ≤ r'.bareOutcome.signed := by
  have htargets : ∀ roll target target' : Score, target ≤ target' →
      (ofRoll roll target).signed ≤ (ofRoll roll target').signed ∧
      ((ofRoll roll target).success = true → (ofRoll roll target').success = true) := by
    intro roll target target' h
    have hsuccess : succeeds roll target = true → succeeds roll target' = true :=
      succeeds_of_le_target h
    refine ⟨signed_ofRoll_le hsuccess ?_, hsuccess⟩
    rw [Score.le_iff] at h
    omega
  refine ⟨htargets, ?_, ?_⟩
  · intro target roll roll' hlow h hhigh
    apply signed_ofRoll_le (succeeds_of_le_roll hlow h hhigh)
    rw [Score.le_iff] at h
    omega
  · intro σ τ _ _ e e' dice dice' p base hbase hface r r'
    have hhigher := p.previewTarget_mono hbase
    obtain ⟨hsigned, hsuccess⟩ := htargets (.clamp (DieRoller.d100 dice).1.toNat) _ _ hhigher
    have hr' :
        r' = { p with baseTarget := base }.result (.clamp (DieRoller.d100 dice).1.toNat) := by
      rw [hface]
      rfl
    rw [hr']
    exact ⟨hhigher, hsuccess, hsigned⟩

/-! ### A climb

Loose scree leaves little of the skill of the climber, who misses the target. With a rope, which
raises the base target by 25, the same roll makes it.
-/

def climb : PendingCheck where
  actor := default
  label := "Climb"
  domain := ⟨"skill:climb"⟩
  baseTarget := 30
  modifiers := [{ label := "Scree", value := .clamp (-20) }]
  rollOptions := ∅
  adjustments := []
  cap := 60

/-- The climb from a base target, with a roll of 33. -/
def climbFrom (baseTarget : Score) : CheckResult :=
  (finish {} { climb with baseTarget } (ScriptedDice.mk [33] (.ofSeed 0))).1

theorem bare_outcome_monotone_climb :
    ((ofRoll 100 .least).signed.toInt = -922337203685477581 ∧
      (ofRoll 100 .least).signed ≤ (ofRoll 100 .greatest).signed) ∧
    ((ofRoll 100 .greatest).success = false ∧
      (ofRoll 100 .greatest).signed ≤ (ofRoll 99 .greatest).signed) ∧
    ((climbFrom 30).target = 10 ∧ (climbFrom 55).target = 35 ∧
      (climbFrom 30).success = false ∧ (climbFrom 55).success = true ∧
      (climbFrom 30).bareOutcome.signed ≤ (climbFrom 55).bareOutcome.signed) := by
  obtain ⟨htargets, hrolls, hchecks⟩ := bare_outcome_monotone
  have hleast := htargets 100 .least .greatest (by decide)
  have hlast := hrolls .greatest 99 100 (by decide) (by decide) (by decide)
  have hrope := hchecks {} {} (ScriptedDice.mk [33] (.ofSeed 0)) (ScriptedDice.mk [33] (.ofSeed 0))
    climb 55 (by decide) rfl
  exact ⟨⟨by decide +kernel, hleast.1⟩, ⟨by decide +kernel, hlast⟩, by decide +kernel,
    by decide +kernel, by decide +kernel, by decide +kernel, hrope.2.2⟩

end Engine

/-! ## Adjusted outcomes -/

namespace Outcome

/-- The outcome after adjustments, one after the other. -/
def adjustedBy (o : Outcome) (amounts : List Score) : Outcome := amounts.foldl adjusted o

/-- What one adjustment keeps, a sequence of them keeps. -/
theorem adjustedBy_induction {motive : Outcome → Prop} {amounts : List Score}
    (step : ∀ o, ∀ n ∈ amounts, motive o → motive (o.adjusted n)) {o : Outcome} (h : motive o) :
    motive (o.adjustedBy amounts) := by
  induction amounts generalizing o with
  | nil => exact h
  | cons n rest ih =>
    apply ih
    · intro o m hm
      exact step o m (List.mem_cons_of_mem n hm)
    · exact step o n List.mem_cons_self h

theorem degrees_adjustedBy_nonneg {o : Outcome} (h : 0 ≤ o.degrees) (amounts : List Score) :
    0 ≤ (o.adjustedBy amounts).degrees := by
  refine adjustedBy_induction (motive := fun o => 0 ≤ o.degrees) ?_ h
  intro o n _ _
  rw [Score.le_iff, toInt_degrees_adjusted, Score.toInt_zero]
  omega

/-- Amounts that are not negative use up no degrees. -/
theorem degrees_adjustedBy_pos {o : Outcome} {amounts : List Score} (h : 0 < o.degrees)
    (hamounts : ∀ n ∈ amounts, 0 ≤ n) : 0 < (o.adjustedBy amounts).degrees := by
  refine adjustedBy_induction (motive := fun o => 0 < o.degrees) ?_ h
  intro o n hn hdegrees
  have hamount := hamounts n hn
  rw [Score.le_iff, Score.toInt_zero] at hamount
  rw [Score.lt_iff, Score.toInt_zero] at hdegrees ⊢
  rw [toInt_degrees_adjusted]
  omega

/-- A failure stays below a success as long as one of them has degrees. -/
theorem signed_lt_signed_iff {a b : Outcome} (ha : 0 ≤ a.degrees) (hb : 0 ≤ b.degrees)
    (hmade : a.success = true) (hmissed : b.success = false) :
    b.signed < a.signed ↔ 0 < a.degrees ∨ 0 < b.degrees := by
  rw [Score.lt_iff, toInt_signed ha, toInt_signed hb, hmade, hmissed]
  simp only [Score.le_iff, Score.lt_iff, Score.toInt_zero, Bool.false_eq_true, if_false,
    if_true] at ha hb ⊢
  omega

/-- **A failure ranks below a success unless neither has degrees left.** Roll against any two
targets and adjust the outcomes any number of times. If one is a success and the other a failure,
the failure does not rank above the success. It ranks below exactly if adjustments have not brought
both to zero degrees, so certainly if the adjustments of one of them never lower it. -/
theorem failure_below_success_iff (roll target roll' target' : Score)
    (amounts amounts' : List Score) :
    let a := (ofRoll roll target).adjustedBy amounts
    let b := (ofRoll roll' target').adjustedBy amounts'
    a.success = true → b.success = false →
      b.signed ≤ a.signed ∧
      (b.signed < a.signed ↔ ¬ (a.degrees = 0 ∧ b.degrees = 0)) ∧
      ((∀ n ∈ amounts, 0 ≤ n) ∨ (∀ n ∈ amounts', 0 ≤ n) → b.signed < a.signed) := by
  intro a b hmade hmissed
  have ha : 0 ≤ a.degrees := degrees_adjustedBy_nonneg (degrees_ofRoll_nonneg roll target) amounts
  have hb : 0 ≤ b.degrees :=
    degrees_adjustedBy_nonneg (degrees_ofRoll_nonneg roll' target') amounts'
  have hbelow := signed_lt_signed_iff ha hb hmade hmissed
  refine ⟨?_, ?_, ?_⟩
  · rw [Score.le_iff, toInt_signed ha, toInt_signed hb, hmade, hmissed]
    simp only [Score.le_iff, Score.toInt_zero, Bool.false_eq_true, if_false, if_true] at ha hb ⊢
    omega
  · rw [hbelow, Score.ext_iff, Score.ext_iff, Score.lt_iff, Score.lt_iff]
    simp only [Score.le_iff, Score.toInt_zero] at ha hb ⊢
    omega
  · intro hamounts
    rw [hbelow]
    rcases hamounts with hamounts | hamounts
    · exact .inl (degrees_adjustedBy_pos (degrees_ofRoll_pos roll target) hamounts)
    · exact .inr (degrees_adjustedBy_pos (degrees_ofRoll_pos roll' target') hamounts)

/-! ### A duel

One fencer hits by a hair and the other misses by a hair. Both are winded, which costs each the one
degree, and nothing tells hit from miss any more. A second wind restores the degree of the hit.
-/

/-- What being winded costs. -/
def winded : Score := .clamp (-1)

/-- A roll of 45 against 45. -/
def hit (amounts : List Score) : Outcome := (ofRoll 45 45).adjustedBy amounts

/-- A roll of 46 against 45. -/
def miss (amounts : List Score) : Outcome := (ofRoll 46 45).adjustedBy amounts

theorem failure_not_below_success_winded :
    (hit [winded]).success = true ∧ (miss [winded]).success = false ∧
      ¬ (miss [winded]).signed < (hit [winded]).signed := by
  decide +kernel

theorem failure_below_success_iff_winded :
    (hit [winded, 1]).success = true ∧ (miss [winded]).success = false ∧
      (miss [winded]).signed < (hit [winded, 1]).signed := by
  have hmade : (hit [winded, 1]).success = true := by decide +kernel
  have hmissed : (miss [winded]).success = false := by decide +kernel
  obtain ⟨-, hbelow, -⟩ := failure_below_success_iff 45 45 46 45 [winded, 1] [winded] hmade hmissed
  exact ⟨hmade, hmissed, hbelow.2 (by decide +kernel)⟩

end Outcome

end Percentile
