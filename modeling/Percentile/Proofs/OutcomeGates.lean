import Percentile.Proofs.Amendments
import Percentile.Proofs.Provenance

/-!
# Gates on the outcome of a check

A degree adjustment may demand `check:success` or `check:failure`, which the check adds to its roll
options once it knows its bare outcome. Roll options are literal and nobody reserves these two tags,
so they can also be there beforehand. This file says from where, and what follows.

**Where an outcome tag comes from** (`mem_rollOptions_pending_iff`). A roll option rule of an item
may give it, the context may state it, and an amendment may add it. A stored choice cannot give it,
and it never follows from the context itself.

**Theorem (`gates_open_iff`).** An adjustment that demands an outcome fires on this outcome. On the
other one it fires exactly if one of the three has supplied the tag, and then always
(`failure_gate_open_on_success`).
-/

namespace Percentile

/-! ## The tags of an outcome -/

/-- The roll option of an outcome. -/
def PendingCheck.outcomeOption (success : Bool) : String :=
  if success then successOption else failureOption

open PendingCheck

theorem PendingCheck.outcomeOption_ne_empty (success : Bool) : outcomeOption success ≠ "" := by
  cases success <;> decide

theorem PendingCheck.outcomeOption_ne_optionFor (success : Bool) (r : Rule.ChoiceSet)
    (stored : String) : outcomeOption success ≠ r.optionFor stored := by
  intro h
  have hchars := congrArg String.toList h
  cases success <;>
    simp [outcomeOption, successOption, failureOption, Rule.ChoiceSet.optionFor] at hchars

/-- An outcome does not follow from the context of the check. -/
theorem Context.outcomeOption_not_mem_derivedOptions (c : Context) (success : Bool) :
    outcomeOption success ∉ c.derivedOptions := by
  intro h
  unfold derivedOptions at h
  simp only [RollOptions.mem_ofList, List.mem_append, List.mem_cons, List.not_mem_nil, or_false,
    Option.mem_toList, Option.map_eq_some_iff] at h
  rcases h with ((h | h) | ⟨key, -, h⟩) | ⟨key, -, h⟩ <;>
  · have hchars := congrArg String.toList h
    cases success <;> simp [outcomeOption, successOption, failureOption] at hchars

/-! ## Where an outcome tag comes from -/

/-- One element: only a roll option rule writes an outcome. -/
theorem Element.outcomeOption_mem_prepare_iff (e : Element) (owner : Item) (success : Bool) :
    outcomeOption success ∈ (e.prepare owner ∅).1.rollOptions ↔
      e.rule = .rollOption ⟨outcomeOption success⟩ := by
  obtain ⟨_, label, rule⟩ := e
  cases rule with
  | flatModifier r | diceOverride r | resistance r =>
    simp only [prepare]
    split <;> exact iff_of_false (RollOptions.not_mem_empty _) (by simp)
  | adjustDegree r | adjustToughness r | grantItem r =>
    exact iff_of_false (RollOptions.not_mem_empty _) (by simp)
  | rollOption r =>
    obtain ⟨option⟩ := r
    simp only [prepare, Rule.rollOption.injEq, Rule.RollOption.mk.injEq]
    split
    · rename_i hoption
      refine iff_of_false (RollOptions.not_mem_empty _) ?_
      rintro rfl
      exact outcomeOption_ne_empty success (by simpa using hoption)
    · rw [Synthetics.addRollOption, RollOptions.mem_insert]
      exact ⟨fun h => (h.resolve_right (RollOptions.not_mem_empty _)).symm, fun h => .inl h.symm⟩
  | choiceSet r =>
    simp only [prepare]
    split
    · exact iff_of_false (RollOptions.not_mem_empty _) (by simp)
    · cases owner.choice? r.flag with
      | none => exact iff_of_false (RollOptions.not_mem_empty _) (by simp)
      | some stored =>
        refine iff_of_false ?_ (by simp)
        intro h
        rcases RollOptions.mem_insert.1 h with h | h
        · exact outcomeOption_ne_optionFor success r stored h
        · exact RollOptions.not_mem_empty _ h

/-- All passes. -/
theorem Synthetics.outcomeOption_mem_ofPasses_iff (passes : List Pass) (success : Bool) :
    outcomeOption success ∈ (ofPasses passes).rollOptions ↔
      ∃ p ∈ passes, ∃ item, p.Declares item (.rollOption ⟨outcomeOption success⟩) := by
  have hsource : ∀ (r : Registry) item source,
      outcomeOption success ∈ (r.effect item source).rollOptions ↔
        ∃ e, r.element? source item = some e ∧ e.rule = .rollOption ⟨outcomeOption success⟩ := by
    intro r item source
    unfold Registry.effect
    cases r.element? source item with
    | none => exact iff_of_false (RollOptions.not_mem_empty _) (by simp)
    | some e => simpa using e.outcomeOption_mem_prepare_iff item success
  have hfound := found_ofPasses_iff (fun s => outcomeOption success ∈ s.rollOptions)
    (RollOptions.not_mem_empty _)
    (fun s t => by rw [rollOptions_append, RollOptions.mem_union]) passes
  simp only [hfound, hsource, Pass.Declares]

namespace Engine

/-- A roll option rule of an item, the context, or an amendment states the tag beforehand. -/
def Supplies (passes : List Pass) (c : Context) (amendments : List Amendment) (tag : String) :
    Prop :=
  (∃ p ∈ passes, ∃ item, p.Declares item (.rollOption ⟨tag⟩)) ∨ tag ∈ c.rollOptions ∨
    .addRollOption tag ∈ amendments

/-- **A pending check carries an outcome tag** only if one of the three has supplied it. -/
theorem mem_rollOptions_pending_iff {passes : List Pass} {c : Context}
    (hprepared : c.actor.synthetics = .ofPasses passes) (e : Engine) (amendments : List Amendment)
    (success : Bool) :
    outcomeOption success ∈ ((e.prepare c).amendAll amendments).rollOptions ↔
      Supplies passes c amendments (outcomeOption success) := by
  have hderived := c.outcomeOption_not_mem_derivedOptions success
  rw [mem_rollOptions_amendAll, prepare, RollOptions.mem_union, RollOptions.mem_union, hprepared,
    Synthetics.outcomeOption_mem_ofPasses_iff, Supplies]
  simp only [hderived, or_false, or_assoc]

end Engine

/-! ## The gates -/

namespace PendingCheck

theorem outcomeOption_inj {success success' : Bool} :
    outcomeOption success = outcomeOption success' ↔ success = success' := by
  cases success <;> cases success' <;> decide

/-- An adjustment that demands one tag fires if the tag is the outcome or was there before. -/
theorem mem_firing_atom_iff {p : PendingCheck} {a : DegreeAdjustment} (ha : a ∈ p.adjustments)
    {tag : String} (hgate : a.predicate = .atom tag) (success : Bool) :
    a ∈ p.firing success ↔ tag = outcomeOption success ∨ tag ∈ p.rollOptions := by
  have happlies : a.applies (p.optionsAfter success) = true ↔ tag ∈ p.optionsAfter success := by
    rw [DegreeAdjustment.applies, hgate]
    simp [Predicate.test, Predicate.atom, Statement.wellFormed, Statement.holds,
      RollOptions.mem_iff]
  rw [firing, List.mem_filter, happlies, optionsAfter, RollOptions.mem_insert]
  exact and_iff_right ha

end PendingCheck

namespace Engine

/-- **Gates on the outcome.** Prepare an actor by any passes, prepare a check in any context, amend
it and roll. An adjustment that demands one outcome fires on this outcome. On the other it fires
exactly if a roll option rule, the context or an amendment has supplied the tag. The result names
the adjustments that fire. -/
theorem gates_open_iff {σ : Type} [DieRoller σ] {passes : List Pass} {c : Context}
    (hprepared : c.actor.synthetics = .ofPasses passes) (e e' : Engine)
    (amendments : List Amendment) (dice : σ) :
    let p := (e.prepare c).amendAll amendments
    let r := (e'.finish p dice).1
    r.adjustments = (p.firing r.success).map (·.source) ∧
      ∀ (gate : Bool) (a : DegreeAdjustment), a ∈ p.adjustments →
        a.predicate = .atom (if gate then "check:success" else "check:failure") →
        (a ∈ p.firing r.success ↔ r.success = gate ∨
          Supplies passes c amendments (if gate then "check:success" else "check:failure")) := by
  intro p r
  refine ⟨rfl, ?_⟩
  intro gate a ha hgate
  have hsupplies := mem_rollOptions_pending_iff hprepared e amendments gate
  have houtcome : outcomeOption gate = outcomeOption r.success ↔ r.success = gate := by
    rw [outcomeOption_inj, eq_comm]
  rw [mem_firing_atom_iff ha hgate]
  exact or_congr houtcome hsupplies

/-! ### A grudge

It spites whoever fails. Once a rule of the item states the failure as a fact, or the player says so
while the check awaits confirmation, it spites those who succeed as well.
-/

def spiteRule : Json := .ofFields
  [("key", .string "AdjustDegree"), ("amount", .int 2), ("predicate", .string "check:failure")]

def failureRule : Json := .ofFields
  [("key", .string "RollOption"), ("option", .string "check:failure")]

/-- Somebody with a grudge of the given rules, who is prepared and strikes. -/
def blow (rules : List Json) : Context :=
  let actor : Actor :=
    { name := "Orc", characteristics := .ofEntries [("ws", 40)],
      items := [{ name := "Grudge", rules }] }
  .ofCharacteristic (actor.prepareData .builtin).1 "ws" "Weapon Skill"

/-- The blow as it is amended. -/
def aimed (rules : List Json) (amendments : List Amendment) : PendingCheck :=
  (prepare {} (blow rules)).amendAll amendments

/-- The blow with a roll of 10. -/
def struck (rules : List Json) (amendments : List Amendment) : CheckResult :=
  (finish {} (aimed rules amendments) (ScriptedDice.mk [10] (.ofSeed 0))).1

def spite : DegreeAdjustment := ⟨2, .atom "check:failure", "Grudge"⟩

/-- A gate on failure that is open on a success. -/
theorem failure_gate_open_on_success :
    (struck [failureRule, spiteRule] []).success = true ∧
      ∃ a ∈ (aimed [failureRule, spiteRule] []).firing true,
        a.predicate = .atom "check:failure" ∧
          (struck [failureRule, spiteRule] []).adjustments = [a.source] := by
  decide +kernel

theorem gates_open_iff_spite :
    (blow [spiteRule]).actor.synthetics =
      .ofPasses [⟨.builtin, [{ name := "Grudge", rules := [spiteRule] }]⟩] ∧
    (struck [spiteRule] []).success = true ∧
    spite ∉ (aimed [spiteRule] []).firing true ∧
    spite ∈ (aimed [spiteRule] [.addRollOption "check:failure"]).firing true := by
  have hprepared : (blow [spiteRule]).actor.synthetics =
      .ofPasses [⟨.builtin, [{ name := "Grudge", rules := [spiteRule] }]⟩] := rfl
  have hsucceeds : ∀ amendments ∈ [[], [.addRollOption "check:failure"]],
      (struck [spiteRule] amendments).success = true ∧
        spite ∈ (aimed [spiteRule] amendments).adjustments := by decide +kernel
  have hgate : ∀ amendments ∈ [[], [.addRollOption "check:failure"]],
      (spite ∈ (aimed [spiteRule] amendments).firing true ↔
        Supplies [⟨.builtin, [{ name := "Grudge", rules := [spiteRule] }]⟩] (blow [spiteRule])
          amendments "check:failure") := by
    intro amendments hamendments
    obtain ⟨hsuccess, hspite⟩ := hsucceeds amendments hamendments
    have hopen := (gates_open_iff hprepared {} {} amendments
      (ScriptedDice.mk [10] (.ofSeed 0))).2 false spite hspite rfl
    change spite ∈ (aimed [spiteRule] amendments).firing (struck [spiteRule] amendments).success ↔
      (struck [spiteRule] amendments).success = false ∨ _ at hopen
    rw [hsuccess] at hopen
    simpa using hopen
  refine ⟨hprepared, (hsucceeds [] (by decide)).1, ?_, ?_⟩
  · rw [hgate [] (by decide)]
    intro hsupplies
    have hcarried := (mem_rollOptions_pending_iff hprepared {} [] false).2 hsupplies
    exact absurd hcarried (by decide +kernel)
  · rw [hgate _ (by decide)]
    exact .inr (.inr (by decide))

end Engine

end Percentile
