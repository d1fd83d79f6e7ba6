import Percentile.Actor
import Percentile.Modifier.Resolution

/-!
# Pending checks

A *pending check* has collected all that a check needs and has not been rolled. It holds values of
its own, so it can be kept, shown and amended, while the actor changes.

**Amendments** are what a confirmation may do to the parts of a pending check: switch a modifier
that may be switched, add a modifier, or add a roll option. They leave all else of the check alone.
Apart from that, a confirmation may put another check in its place (`Percentile.Dialog`).

**The preview** resolves the modifiers as they stand and shows the target that the check would be
rolled against.
-/

namespace Percentile

/-- A check that has not been rolled. -/
structure PendingCheck where
  /-- Who checks. -/
  actor : ActorId
  label : String
  /-- The kind of check. -/
  domain : Domain
  /-- The target before modifiers. -/
  baseTarget : Score
  modifiers : List Modifier
  rollOptions : RollOptions
  adjustments : List DegreeAdjustment
  cap : Score
  deriving DecidableEq

/-- A change to a pending check. -/
inductive Amendment where
  /-- Switch the modifier at a position on or off. -/
  | toggle (position : Nat)
  | addModifier (m : Modifier)
  | addRollOption (tag : String)
  deriving DecidableEq

namespace PendingCheck

/-- Switch the modifier at a position, if there is one and it may be switched: the check after it,
and the new state of the modifier. -/
def toggle (p : PendingCheck) (position : Nat) : PendingCheck × Option Bool :=
  match p.modifiers[position]? with
  | none => (p, none)
  | some m =>
    if m.toggleable then
      let modifiers := p.modifiers.set position { m with enabled := !m.enabled }
      ({ p with modifiers }, some !m.enabled)
    else (p, none)

/-- Add a modifier behind the others. -/
def addModifier (p : PendingCheck) (m : Modifier) : PendingCheck :=
  { p with modifiers := p.modifiers ++ [m] }

def addRollOption (p : PendingCheck) (tag : String) : PendingCheck :=
  { p with rollOptions := p.rollOptions.insert tag }

def amend (p : PendingCheck) : Amendment → PendingCheck
  | .toggle position => (p.toggle position).1
  | .addModifier m => p.addModifier m
  | .addRollOption tag => p.addRollOption tag

def amendAll (p : PendingCheck) (amendments : List Amendment) : PendingCheck :=
  amendments.foldl amend p

/-- The modifiers resolved as they stand. -/
def preview (p : PendingCheck) : Resolution := .resolve p.modifiers p.rollOptions p.cap

/-- The target that the check would be rolled against, at least one. -/
def previewTarget (p : PendingCheck) : Score := max (p.baseTarget + p.preview.total) 1

end PendingCheck

end Percentile
