import Percentile.Check.Engine
import Percentile.Proofs.ExclusionOrder
import Percentile.Proofs.Preparation
import Percentile.Proofs.Sum

/-!
# The order of content

Items have an order, and so have the rules of an item, but neither is meant to matter. This file
follows a reordering through the whole of a check.

**Preparation** (`Registry.prepare_alike`). The outcomes of the rule sources are rearranged. So the
statistics stay, and the synthetics are alike.

**Collection** (`Engine.prepare_alike`). The pending check has its modifiers and its adjustments in
another order, and all else as before.

**Result** (`PendingCheck.Alike.result`). Exclusion may keep another one of several equal modifiers,
but not another value. A saturating sum may depend on the order of its terms, but not while their
magnitude stays in the range.

**Theorem (`finish_of_reordering`).** Two actors with the same content in another order get the same
numbers from the same roll, as long as these stay in the range, and the same modifiers up to order.
-/

namespace Percentile

namespace Item

/-- The same item with its rule sources in another order. -/
def Shuffled (item item' : Item) : Prop :=
  ∃ rules, item.rules.Perm rules ∧ item' = { item with rules }

/-- The same items in another order, and in each item the same rule sources in another order. -/
def Reordering (items items' : List Item) : Prop :=
  ∃ between, items.Perm between ∧ List.Forall₂ Shuffled between items'

end Item

/-! ## Preparation -/

namespace Registry

variable (r : Registry) {items items' : List Item}

theorem perm_outcomes_of_shuffled (h : List.Forall₂ Item.Shuffled items items') :
    (r.outcomes items).Perm (r.outcomes items') := by
  induction h with
  | nil => exact .nil
  | @cons item item' rest rest' hitem _ ih =>
    obtain ⟨rules, hrules, rfl⟩ := hitem
    have hsame : r.outcome { item with rules } = r.outcome item :=
      funext fun source => r.outcome_withRules item rules source
    show (item.rules.map (r.outcome item) ++ r.outcomes rest).Perm
      (rules.map (r.outcome { item with rules }) ++ r.outcomes rest')
    rw [hsame]
    exact (hrules.map _).append ih

/-- A reordering rearranges the outcomes. -/
theorem perm_outcomes (h : Item.Reordering items items') :
    (r.outcomes items).Perm (r.outcomes items') := by
  obtain ⟨between, hperm, hshuffled⟩ := h
  exact (hperm.flatMap_right _).trans (r.perm_outcomes_of_shuffled hshuffled)

/-- **A preparation does not see the order**, except in the order of its lists. -/
theorem prepare_alike (h : Item.Reordering items items') (s : Synthetics) :
    (r.prepare items s).1.Alike (r.prepare items' s).1 ∧
      (r.prepare items s).2 = (r.prepare items' s).2 := by
  have hperm := r.perm_outcomes h
  refine ⟨?_, ?_⟩
  · rw [prepare_fst, prepare_fst]
    exact (Synthetics.alike_total_of_perm (hperm.map _)).append_left s
  · simp only [prepare_snd, hperm.countP_eq]

end Registry

/-! ## Resolution -/

namespace Resolution

open Modifier

variable {ms ms' : List Modifier}

theorem perm_stakes (h : ms.Perm ms') (options : RollOptions) (cap : Score) :
    ((resolve ms options cap).applied.map stake).Perm
      ((resolve ms' options cap).applied.map stake) :=
  perm_exclude (h.filter _)

theorem perm_values (h : ms.Perm ms') (options : RollOptions) (cap : Score) :
    ((resolve ms options cap).applied.map (·.value)).Perm
      ((resolve ms' options cap).applied.map (·.value)) := by
  have hstakes := (perm_stakes h options cap).map Prod.snd
  rw [List.map_map, List.map_map] at hstakes
  exact hstakes

/-- The total does not depend on the order while the magnitude of all modifiers is in the range. -/
theorem total_eq_of_perm (h : ms.Perm ms') (options : RollOptions) (cap : Score)
    (hrange : (Score.magnitude (ms.map (·.value)) : Int) ≤ Score.greatest.toInt) :
    (resolve ms options cap).total = (resolve ms' options cap).total := by
  have happlied : (resolve ms options cap).applied.Sublist ms :=
    (exclude_sublist _).trans List.filter_sublist
  have hle := Score.magnitude_le_of_sublist (happlied.map (·.value))
  have hsum := Score.sum_eq_of_perm (perm_values h options cap) (by omega)
  exact congrArg (Score.within cap) hsum

end Resolution

/-! ## Pending checks -/

namespace PendingCheck

/-- The same check with its modifiers and its adjustments in another order. -/
def Alike (p p' : PendingCheck) : Prop :=
  ∃ modifiers adjustments, p.modifiers.Perm modifiers ∧ p.adjustments.Perm adjustments ∧
    p' = { p with modifiers, adjustments }

/-- The outcome before the adjustments. -/
def bare (p : PendingCheck) (roll : Score) : Outcome := .ofRoll roll p.previewTarget

theorem result_degrees (p : PendingCheck) (roll : Score) :
    (p.result roll).degrees =
      ((p.bare roll).adjusted
        (.sum ((p.firing (p.bare roll).success).map (·.amount)))).degrees := rfl

variable {p p' : PendingCheck}

theorem Alike.total_eq (h : p.Alike p')
    (hrange : (Score.magnitude (p.modifiers.map (·.value)) : Int) ≤ Score.greatest.toInt) :
    p.preview.total = p'.preview.total := by
  obtain ⟨modifiers, _, hmodifiers, _, rfl⟩ := h
  exact Resolution.total_eq_of_perm hmodifiers _ _ hrange

theorem Alike.target_eq (h : p.Alike p')
    (hrange : (Score.magnitude (p.modifiers.map (·.value)) : Int) ≤ Score.greatest.toInt) :
    p.previewTarget = p'.previewTarget := by
  have htotal := h.total_eq hrange
  obtain ⟨modifiers, adjustments, _, _, rfl⟩ := h
  rw [previewTarget, previewTarget, htotal]

theorem Alike.amount_eq (h : p.Alike p') (success : Bool)
    (hrange : (Score.magnitude (p.adjustments.map (·.amount)) : Int) ≤ Score.greatest.toInt) :
    Score.sum ((p.firing success).map (·.amount)) =
      Score.sum ((p'.firing success).map (·.amount)) := by
  obtain ⟨_, adjustments, _, hadjustments, rfl⟩ := h
  have hfired : (p.firing success).Sublist p.adjustments := List.filter_sublist
  have hle := Score.magnitude_le_of_sublist (hfired.map (·.amount))
  exact Score.sum_eq_of_perm ((hadjustments.filter _).map _) (by omega)

/-- What the order cannot change in a result, given the number rolled. -/
theorem Alike.result (h : p.Alike p') (roll : Score) :
    (p.result roll).allModifiers.Perm (p'.result roll).allModifiers ∧
    ((p.result roll).appliedModifiers.map Modifier.stake).Perm
      ((p'.result roll).appliedModifiers.map Modifier.stake) ∧
    ((Score.magnitude (p.modifiers.map (·.value)) : Int) ≤ Score.greatest.toInt →
      (p.result roll).modifierTotal = (p'.result roll).modifierTotal ∧
      (p.result roll).target = (p'.result roll).target ∧
      (p.result roll).success = (p'.result roll).success ∧
      (p.result roll).unadjustedDegrees = (p'.result roll).unadjustedDegrees ∧
      ((Score.magnitude (p.adjustments.map (·.amount)) : Int) ≤ Score.greatest.toInt →
        (p.result roll).degrees = (p'.result roll).degrees)) := by
  refine ⟨?_, ?_, fun hrange => ?_⟩
  · obtain ⟨_, _, hmodifiers, _, rfl⟩ := h
    exact hmodifiers
  · obtain ⟨_, _, hmodifiers, _, rfl⟩ := h
    exact Resolution.perm_stakes hmodifiers p.rollOptions p.cap
  · -- The bare outcome comes from the target alone, and the adjustments see nothing else of it.
    have htarget := h.target_eq hrange
    have hbare : p.bare roll = p'.bare roll := by rw [bare, bare, htarget]
    have hsuccess := congrArg Outcome.success hbare
    have hdegrees := congrArg Outcome.degrees hbare
    refine ⟨h.total_eq hrange, htarget, hsuccess, hdegrees, fun hrange' => ?_⟩
    rw [result_degrees, result_degrees, hbare, h.amount_eq _ hrange']

end PendingCheck

/-! ## Whole checks -/

namespace Engine

/-- Actors whose synthetics are alike have pending checks that are alike. -/
theorem prepare_alike (e : Engine) (c : Context) {a a' : Actor} (hid : a.id = a'.id)
    (h : a.synthetics.Alike a'.synthetics) :
    (e.prepare { c with actor := a }).Alike (e.prepare { c with actor := a' }) := by
  refine ⟨_, _, (h.modifiersFor c.domain).append_right c.modifiers, h.degreeAdjustments, ?_⟩
  show e.prepare { c with actor := a' } = PendingCheck.mk a.id _ _ _ _ _ _ _
  rw [hid]
  show PendingCheck.mk _ _ _ _ _ (a'.synthetics.rollOptions ∪ _ ∪ _) _ _ =
    PendingCheck.mk _ _ _ _ _ (a.synthetics.rollOptions ∪ _ ∪ _) _ _
  rw [h.rollOptions]
  rfl

/-- **Content order does not decide a check.** Prepare an actor from scratch, once with its items
and once with a reordering of them, and take both through a check with the same number rolled. The
statistics and the roll options are equal, the modifiers and the applied stakes are rearranged, and
in the range of scores the numbers of the result are equal. -/
theorem finish_of_reordering {σ τ : Type} [DieRoller σ] [DieRoller τ] (r : Registry) (a : Actor)
    (items' : List Item) (h : Item.Reordering a.items items') (e : Engine) (c : Context)
    (dice : σ) (dice' : τ) (hroll : (DieRoller.d100 dice).1 = (DieRoller.d100 dice').1) :
    let prepared := a.prepareData r
    let prepared' := { a with items := items' }.prepareData r
    let p := e.prepare { c with actor := prepared.1 }
    let p' := e.prepare { c with actor := prepared'.1 }
    let result := (e.finish p dice).1
    let result' := (e.finish p' dice').1
    prepared.2 = prepared'.2 ∧
    prepared.1.synthetics.rollOptions = prepared'.1.synthetics.rollOptions ∧
    p.rollOptions = p'.rollOptions ∧
    result.allModifiers.Perm result'.allModifiers ∧
    (result.appliedModifiers.map Modifier.stake).Perm
      (result'.appliedModifiers.map Modifier.stake) ∧
    ((Score.magnitude (p.modifiers.map (·.value)) : Int) ≤ Score.greatest.toInt →
      result.modifierTotal = result'.modifierTotal ∧ result.target = result'.target ∧
      result.success = result'.success ∧
      result.unadjustedDegrees = result'.unadjustedDegrees ∧
      ((Score.magnitude (p.adjustments.map (·.amount)) : Int) ≤ Score.greatest.toInt →
        result.degrees = result'.degrees)) := by
  intro prepared prepared' p p' result result'
  obtain ⟨halike, hstats⟩ := r.prepare_alike h ∅
  have hp : p.Alike p' := e.prepare_alike c rfl halike
  have hoptions : p.rollOptions = p'.rollOptions := by
    obtain ⟨_, _, _, _, hp'⟩ := hp
    rw [hp']
  have hresult : result' = p'.result (.clamp (DieRoller.d100 dice).1.toNat) := by
    rw [hroll]
    rfl
  rw [hresult]
  exact ⟨hstats, halike.rollOptions, hoptions, hp.result _⟩

/-! ### Two covers

A scout sneaks past a hedge and a wall, whose penalties exclude each other. Which of the two counts
depends on the order, what it costs does not.
-/

def coverRule : Json := .ofFields
  [("key", .string "FlatModifier"), ("domain", .string "skill:stealth"), ("value", .int (-20)),
   ("exclusionGroup", .string "cover")]

def leavesRule : Json := .ofFields [("key", .string "AdjustDegree"), ("amount", .int 2)]

def hedge : Item where
  name := "Hedge"
  rules := [coverRule, leavesRule]

def wall : Item where
  name := "Wall"
  rules := [coverRule]

def sneaking : Context where
  actor := { name := "Scout", items := [hedge, wall] }
  baseTarget := 55
  label := "Sneak"
  domain := ⟨"skill:stealth:sneak"⟩

/-- The result of sneaking with a roll of 12. -/
def sneak (items : List Item) : CheckResult :=
  let scout := ({ sneaking.actor with items }.prepareData .builtin).1
  (finish {} (prepare {} { sneaking with actor := scout }) (ScriptedDice.mk [12] (.ofSeed 0))).1

theorem finish_of_reordering_covers :
    (sneak [hedge, wall]).degrees =
      (sneak [wall, { hedge with rules := [leavesRule, coverRule] }]).degrees ∧
    (sneak [hedge, wall]).degrees = 5 ∧
    (sneak [hedge, wall]).appliedModifiers ≠ (sneak [wall, hedge]).appliedModifiers := by
  have hreordering : Item.Reordering [hedge, wall]
      [wall, { hedge with rules := [leavesRule, coverRule] }] :=
    ⟨[wall, hedge], .swap _ _ _, .cons ⟨_, .refl _, rfl⟩ (.cons ⟨_, .swap _ _ _, rfl⟩ .nil)⟩
  have h := finish_of_reordering .builtin sneaking.actor _ hreordering {} sneaking
    (ScriptedDice.mk [12] (.ofSeed 0)) (ScriptedDice.mk [12] (.ofSeed 0)) rfl
  obtain ⟨_, _, _, _, _, hnumbers⟩ := h
  obtain ⟨_, _, _, _, hdegrees⟩ := hnumbers (by decide +kernel)
  exact ⟨hdegrees (by decide +kernel), by decide +kernel, by decide +kernel⟩

end Engine

end Percentile
