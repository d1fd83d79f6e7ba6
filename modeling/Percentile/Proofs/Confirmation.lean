import Mathlib.Data.List.Basic
import Percentile.Check.Engine

/-!
# What a confirmation can change, and what it shows

Between its preparation and its roll a check is shown and amended. This file says what amendments
leave alone and how far the preview can be relied on.

**The frame** (`amendAll_eq`). Whatever the amendments, only the modifiers and the roll options of a
pending check change.

**Theorem (`finish_agrees_with_preview`).** What the preview shows is what the result will say: the
target, the total, and the modifiers, next to the facts of the context. The outcome becomes a roll
option only after the modifiers are resolved, so neither the number rolled nor a degree adjustment
can move any of these.
-/

namespace Percentile

/-- The modifier switched over, if it may be switched. -/
def Modifier.switched (m : Modifier) : Modifier :=
  if m.toggleable then { m with enabled := !m.enabled } else m

namespace PendingCheck

/-! ## The frame of amendments -/

/-- To toggle a position is to switch the modifier there, if there is one. -/
theorem toggle_fst (p : PendingCheck) (position : Nat) :
    (p.toggle position).1 =
      { p with modifiers := p.modifiers.modify position Modifier.switched } := by
  rw [List.modify_eq_set_getElem?, toggle]
  cases hm : p.modifiers[position]? with
  | none => rfl
  | some m =>
    cases htoggleable : m.toggleable with
    | true => simp [Modifier.switched, htoggleable]
    | false =>
      obtain ⟨hlt, hget⟩ := List.getElem?_eq_some_iff.1 hm
      have hself : p.modifiers.set position m = p.modifiers := by
        rw [← hget, List.set_getElem_self]
      simp [Modifier.switched, htoggleable, hself]

/-- An amendment changes only modifiers and roll options. -/
theorem amend_eq (p : PendingCheck) (a : Amendment) :
    p.amend a =
      { p with modifiers := (p.amend a).modifiers, rollOptions := (p.amend a).rollOptions } := by
  cases a with
  | toggle position => simp only [amend, toggle_fst]
  | addModifier m => rfl
  | addRollOption tag => rfl

/-- **Amendments change only modifiers and roll options.** -/
theorem amendAll_eq (p : PendingCheck) (amendments : List Amendment) :
    p.amendAll amendments =
      { p with
        modifiers := (p.amendAll amendments).modifiers
        rollOptions := (p.amendAll amendments).rollOptions } := by
  induction amendments generalizing p with
  | nil => rfl
  | cons a rest ih =>
    show (p.amend a).amendAll rest = { p with
      modifiers := ((p.amend a).amendAll rest).modifiers
      rollOptions := ((p.amend a).amendAll rest).rollOptions }
    rw [ih, amend_eq]

end PendingCheck

/-! ## The preview -/

namespace Engine

/-- **The preview is what the result will say.** Whatever was amended, whichever engine finishes the
check and whatever the dice are, the result has the target and the modifiers of the preview and the
facts of the context. With other degree adjustments or another roll a result can differ only in the
roll, the success, the degrees and the adjustments that it names. -/
theorem finish_agrees_with_preview {σ τ : Type} [DieRoller σ] [DieRoller τ] (e e' : Engine)
    (c : Context) (amendments : List Amendment) (dice : σ) :
    let p := (e.prepare c).amendAll amendments
    let r := (e'.finish p dice).1
    (r.target = p.previewTarget ∧ r.modifierTotal = p.preview.total ∧
      r.appliedModifiers = p.preview.applied ∧ r.allModifiers = p.preview.all) ∧
    (r.actor = c.actor.id ∧ r.label = c.label ∧ r.domain = c.domain ∧
      r.baseTarget = c.baseTarget) ∧
    ∀ (adjustments : List DegreeAdjustment) (other : Engine) (dice' : τ),
      let r' := (other.finish { p with adjustments } dice').1
      r' = { r with
        roll := r'.roll
        success := r'.success
        degrees := r'.degrees
        unadjustedDegrees := r'.unadjustedDegrees
        adjustments := r'.adjustments } := by
  intro p r
  have hframe : p = { e.prepare c with modifiers := p.modifiers, rollOptions := p.rollOptions } :=
    PendingCheck.amendAll_eq _ _
  refine ⟨⟨rfl, rfl, rfl, rfl⟩, ?_, fun _ _ _ => rfl⟩
  have hactor : p.actor = c.actor.id := by rw [hframe]; rfl
  have hlabel : p.label = c.label := by rw [hframe]; rfl
  have hdomain : p.domain = c.domain := by rw [hframe]; rfl
  have hbase : p.baseTarget = c.baseTarget := by rw [hframe]; rfl
  exact ⟨hactor, hlabel, hdomain, hbase⟩

end Engine

end Percentile
