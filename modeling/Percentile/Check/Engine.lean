import Percentile.Check.Context
import Percentile.Check.Pending
import Percentile.Check.Result
import Percentile.Configuration
import Percentile.Dice

/-!
# The check engine

A check goes through three stages. `Engine.prepare` collects modifiers, roll options and adjustments
from the context and the synthetics of the actor. A dialog may change the pending check, or cancel
it. `Engine.finish` rolls the die and works out the result.

**A dialog** (`Dialog`) is code of the host. It keeps a state of its own, and it may put any check
in the place of the one that it is shown. Most dialogs only make amendments (`Dialog.amending`).

**The result is a function of the number rolled** (`PendingCheck.result`). The modifiers are
resolved before the outcome is known. The outcome then becomes a roll option, and the degree
adjustments see it.

**A session** is what several checks share: the dice and the log. A cancelled check touches neither.
-/

namespace Percentile

namespace PendingCheck

/-- The roll option of a success. -/
def successOption : String := "check:success"

/-- The roll option of a failure. -/
def failureOption : String := "check:failure"

/-- The roll options that degree adjustments see: those of the check, and its bare outcome. -/
def optionsAfter (p : PendingCheck) (success : Bool) : RollOptions :=
  p.rollOptions.insert (if success then successOption else failureOption)

/-- The adjustments that apply to a bare outcome. -/
def firing (p : PendingCheck) (success : Bool) : List DegreeAdjustment :=
  p.adjustments.filter (·.applies (p.optionsAfter success))

/-- The result of the check for a number rolled. -/
def result (p : PendingCheck) (roll : Score) : CheckResult :=
  let resolution := Resolution.resolve p.modifiers p.rollOptions p.cap
  let target := max (p.baseTarget + resolution.total) 1
  let bare := Outcome.ofRoll roll target
  let fired := p.firing bare.success
  let final := bare.adjusted (.sum (fired.map (·.amount)))
  { actor := p.actor
    label := p.label
    domain := p.domain
    roll := roll
    baseTarget := p.baseTarget
    target := target
    success := final.success
    degrees := final.degrees
    unadjustedDegrees := bare.degrees
    modifierTotal := resolution.total
    appliedModifiers := resolution.applied
    allModifiers := resolution.all
    adjustments := fired.map (·.source) }

/-- Roll the percentile die and work out the result. -/
def finish {σ : Type} [DieRoller σ] (p : PendingCheck) (dice : σ) : CheckResult × σ :=
  let (face, dice) := DieRoller.d100 dice
  (p.result (.clamp face.toNat), dice)

end PendingCheck

/-- What a dialog decides about a pending check. -/
inductive Decision where
  | confirmed
  | cancelled
  deriving DecidableEq

/-- A confirmation with a state of its own. It looks at the pending check, leaves that or another
check to be rolled, and decides. -/
abbrev Dialog (δ : Type) := δ → PendingCheck → (PendingCheck × Decision) × δ

namespace Dialog

variable {δ : Type}

/-- The dialog that confirms every check as it is. -/
def autoConfirm : Dialog δ := fun d p => ((p, .confirmed), d)

/-- The dialog that makes the chosen amendments. -/
def amending (choose : δ → PendingCheck → (List Amendment × Decision) × δ) : Dialog δ := fun d p =>
  let ((amendments, decision), d) := choose d p
  ((p.amendAll amendments, decision), d)

end Dialog

/-- What the checks of one evening share. -/
structure Session (σ : Type) where
  dice : σ
  /-- The results reported so far, the oldest first. -/
  log : List CheckResult := []

/-- Prepares checks under a configuration. -/
structure Engine where
  /-- The configuration, which may be any. -/
  configuration : Configuration := {}
  deriving DecidableEq

namespace Engine

/-- Collect what a check needs. -/
def prepare (e : Engine) (c : Context) : PendingCheck where
  actor := c.actor.id
  label := c.label
  domain := c.domain
  baseTarget := c.baseTarget
  modifiers := c.actor.synthetics.modifiersFor c.domain ++ c.modifiers
  rollOptions := c.actor.synthetics.rollOptions ∪ c.derivedOptions ∪ c.rollOptions
  adjustments := c.actor.synthetics.degreeAdjustments
  cap := e.configuration.modifierCap

/-- The check that is rolled: as prepared if the dialog is skipped, as the dialog leaves it if it
confirms, and none if it cancels. -/
def confirm {δ : Type} (e : Engine) (c : Context) (dialog : Dialog δ) (d : δ) :
    Option PendingCheck × δ :=
  let p := e.prepare c
  if c.skipDialog then (some p, d)
  else
    let ((p, decision), d) := dialog d p
    (if decision = .confirmed then some p else none, d)

/-- Roll a pending check. It carries all it needs, so any engine does the same with it. -/
def finish {σ : Type} [DieRoller σ] (_e : Engine) (p : PendingCheck) (dice : σ) : CheckResult × σ :=
  p.finish dice

/-- Run a check to its end and report the result, unless the dialog cancels it. -/
def roll {σ δ : Type} [DieRoller σ] (e : Engine) (c : Context) (dialog : Dialog δ)
    (s : Session σ) (d : δ) : Option CheckResult × Session σ × δ :=
  match e.confirm c dialog d with
  | (none, d) => (none, s, d)
  | (some p, d) =>
    let (result, dice) := e.finish p s.dice
    (some result, { dice, log := s.log ++ [result] }, d)

end Engine

end Percentile
