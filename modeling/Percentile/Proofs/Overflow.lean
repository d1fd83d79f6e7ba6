import Percentile.Proofs.Cap
import Percentile.Proofs.Ranking

/-!
# No outcome overflows

Sums and differences of scores saturate, but three steps on the way to an outcome are plain: the
margin is divided by ten, one is added for the bare result, and a failure gets a minus sign. Such a
step fails where its exact result is no score. This file shows that none of them does.

**Degrees** (`Outcome.ofRoll?_eq_some`). The tenth part of a margin leaves room for one more,
whatever the roll and the target are.

**The sign** (`Outcome.signed?_eq_none_iff`). The only degrees without an opposite are the least
score. Data may hold them, but they are never computed: a roll gives one degree or more, and an
adjustment leaves none or more.

**Theorem (`computed_outcomes_signable`).** So the outcomes of all rolls and of all checks can be
computed, and they have a sign, also after any adjustments.
-/

namespace Percentile

/-! ## Plain steps -/

namespace Score

variable {a b c : Score}

/-- The sum of two scores, if it is a score. -/
def add? (a b : Score) : Option Score := ofInt? (a.toInt + b.toInt)

/-- The quotient of two scores, rounded toward zero, if it is a score. -/
def quotient? (a b : Score) : Option Score :=
  if b = 0 then none else ofInt? (a.toInt.tdiv b.toInt)

theorem add?_eq_some_iff : a.add? b = some c ↔ c.toInt = a.toInt + b.toInt := ofInt?_eq_some_iff

/-- Where nothing is negative, rounding down is rounding toward zero. -/
theorem quotient?_ten_of_nonneg (h : 0 ≤ a) : a.quotient? 10 = some (a.divFloor 10) := by
  have hten : (10 : Score).toInt = 10 := rfl
  have hne : (10 : Score) ≠ 0 := by decide
  rw [le_iff, toInt_zero] at h
  rw [quotient?, if_neg hne, ofInt?_eq_some_iff, toInt_divFloor a 10 (by decide), hten,
    Int.tdiv_eq_ediv_of_nonneg h]
  rfl

theorem opposite?_eq_none_iff : a.opposite? = none ↔ a = least := by
  constructor
  · intro hnone
    by_contra hne
    have hleast : least < a := by
      rw [Score.ext_iff, toInt_least] at hne
      have hlow := a.least_le
      rw [lt_iff, toInt_least]
      omega
    rw [opposite?_of_least_lt hleast] at hnone
    cases hnone
  · rintro rfl
    exact opposite?_least

end Score

/-! ## Outcomes -/

namespace Outcome

variable {o : Outcome}

/-- The outcome of a roll against a target, if its plain steps succeed. The margin saturates. -/
def ofRoll? (roll target : Score) : Option Outcome := do
  let success := succeeds roll target
  let margin := if success then target - roll else roll - target
  let tens ← (max margin 0).quotient? 10
  let degrees ← Score.add? 1 tens
  return { success, degrees }

/-- The degrees, or their opposite for a failure, if there is one. -/
def signed? (o : Outcome) : Option Score :=
  if o.success then some o.degrees else o.degrees.opposite?

/-- **The plain steps of a roll succeed**, also for numbers that no die shows. -/
theorem ofRoll?_eq_some (roll target : Score) :
    ofRoll? roll target = some (ofRoll roll target) := by
  have hnonneg : ∀ margin : Score, 0 ≤ max margin 0 := by
    intro margin
    rw [Score.le_iff, Score.toInt_max, Score.toInt_zero]
    omega
  have hroom : ∀ margin : Score,
      Score.add? 1 ((max margin 0).divFloor 10) = some (1 + (max margin 0).divFloor 10) := by
    intro margin
    have hmargin := hnonneg margin
    have hgreatest := (max margin 0).le_greatest
    rw [Score.le_iff, Score.toInt_zero] at hmargin
    rw [Score.add?_eq_some_iff, Score.toInt_add, Score.toInt_divFloor _ 10 (by decide),
      Score.toInt_one]
    omega
  simp only [ofRoll?, Score.quotient?_ten_of_nonneg (hnonneg _), Option.bind_eq_bind,
    Option.bind_some, hroom]
  rfl

/-- Only failures with the least degrees of all have no sign. -/
theorem signed?_eq_none_iff : o.signed? = none ↔ o.success = false ∧ o.degrees = .least := by
  rw [signed?]
  cases o.success with
  | true => simp
  | false => simp [Score.opposite?_eq_none_iff]

example : (Outcome.mk false .least).signed? = none := by decide

/-- The degrees are not below zero, so they have a sign, and it does not contradict the outcome. -/
structure Signable (o : Outcome) : Prop where
  degrees_nonneg : 0 ≤ o.degrees
  degrees_le : o.degrees ≤ .greatest
  signed?_eq : o.signed? = some o.signed
  signed_nonneg : o.success = true → 0 ≤ o.signed
  signed_nonpos : o.success = false → o.signed ≤ 0

theorem signable_of_nonneg (h : 0 ≤ o.degrees) : o.Signable where
  degrees_nonneg := h
  degrees_le := o.degrees.le_greatest
  signed?_eq := by
    rw [signed?, signed]
    cases o.success with
    | true => rfl
    | false =>
      apply Score.opposite?_of_least_lt
      rw [Score.le_iff, Score.toInt_zero] at h
      rw [Score.lt_iff, Score.toInt_least]
      omega
  signed_nonneg hmade := by
    rw [Score.le_iff, toInt_signed h, if_pos hmade]
    exact h
  signed_nonpos hmissed := by
    have hfailed : ¬ o.success = true := by simp [hmissed]
    rw [Score.le_iff, Score.toInt_zero] at h
    rw [Score.le_iff, toInt_signed h, if_neg hfailed, Score.toInt_zero]
    omega

end Outcome

/-! ## Checks -/

/-- The outcome of a check for a number rolled, if the plain steps succeed, those of the cap
included. -/
def PendingCheck.outcome? (p : PendingCheck) (roll : Score) : Option Outcome := do
  let resolution ← Resolution.resolve? p.modifiers p.rollOptions p.cap
  let bare ← Outcome.ofRoll? roll (max (p.baseTarget + resolution.total) 1)
  return bare.adjusted (.sum ((p.firing bare.success).map (·.amount)))

theorem PendingCheck.outcome?_eq_some (p : PendingCheck) (roll : Score) :
    p.outcome? roll = some (p.result roll).outcome := by
  simp only [outcome?, Resolution.resolve?_eq_some, Outcome.ofRoll?_eq_some, Option.bind_eq_bind,
    Option.bind_some]
  rfl

/-- The outcome of a check is the one of a roll against its target, adjusted once. -/
theorem PendingCheck.exists_outcome_result (p : PendingCheck) (roll : Score) :
    ∃ amount, (p.result roll).outcome = (Outcome.ofRoll roll p.previewTarget).adjustedBy [amount] :=
  ⟨_, rfl⟩

namespace Engine

open Outcome

/-- **No plain step on an outcome fails.** Any roll against any target has an outcome, with one
degree or more. Its degrees stay between zero and the greatest score through any adjustments. Every
check has an outcome of this kind, whatever it holds and whatever face the dice show. So the degrees
can be negated for a failure, and then they are not above zero, as those of a success are not
below. -/
theorem computed_outcomes_signable :
    (∀ roll target : Score,
      ofRoll? roll target = some (ofRoll roll target) ∧ 1 ≤ (ofRoll roll target).degrees) ∧
    (∀ (roll target : Score) (amounts : List Score),
      ((ofRoll roll target).adjustedBy amounts).Signable) ∧
    ∀ {σ : Type} [DieRoller σ] (e : Engine) (p : PendingCheck) (dice : σ),
      p.outcome? (.clamp (DieRoller.d100 dice).1.toNat) = some (e.finish p dice).1.outcome ∧
        (e.finish p dice).1.outcome.Signable := by
  have hadjusted : ∀ (roll target : Score) (amounts : List Score),
      ((ofRoll roll target).adjustedBy amounts).Signable := by
    intro roll target amounts
    apply signable_of_nonneg
    exact degrees_adjustedBy_nonneg (degrees_ofRoll_nonneg roll target) amounts
  refine ⟨fun roll target => ⟨ofRoll?_eq_some roll target, degrees_ofRoll_pos roll target⟩,
    hadjusted, ?_⟩
  intro σ _ e p dice
  refine ⟨p.outcome?_eq_some _, ?_⟩
  obtain ⟨amount, houtcome⟩ := p.exists_outcome_result (.clamp (DieRoller.d100 dice).1.toNat)
  show (p.result (.clamp (DieRoller.d100 dice).1.toNat)).outcome.Signable
  rw [houtcome]
  exact hadjusted _ p.previewTarget [amount]

end Engine

end Percentile
