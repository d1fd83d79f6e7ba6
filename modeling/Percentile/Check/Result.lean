import Percentile.Actor
import Percentile.Check.Outcome

/-!
# Check results

The *result* of a check records all that went into it, for display and for later use.
-/

namespace Percentile

/-- The final result of one check. -/
structure CheckResult where
  /-- Who checked. -/
  actor : ActorId
  label : String
  /-- The kind of check. -/
  domain : Domain
  roll : Score
  /-- The target before modifiers. -/
  baseTarget : Score
  /-- The target after modifiers. -/
  target : Score
  success : Bool
  /-- The degrees after adjustments. -/
  degrees : Score
  /-- The degrees before adjustments. -/
  unadjustedDegrees : Score
  /-- The capped sum of the applied modifiers. -/
  modifierTotal : Score
  /-- The modifiers that counted. -/
  appliedModifiers : List Modifier
  /-- All modifiers that were considered. -/
  allModifiers : List Modifier
  /-- The sources of the adjustments that applied. -/
  adjustments : List String
  deriving DecidableEq

namespace CheckResult

def outcome (r : CheckResult) : Outcome := ⟨r.success, r.degrees⟩

/-- One line to display, such as `Ballistic Skill: 40 vs 50, 2 DoS`. -/
def summary (r : CheckResult) : String :=
  let kind := if r.success then "DoS" else "DoF"
  s!"{r.label}: {r.roll} vs {r.target}, {r.degrees} {kind}"

def record : Record CheckResult :=
  CheckResult.mk
    <$> .required "actor" ActorId.read
    <*> .required "label" .text
    <*> .required "domain" Domain.read
    <*> .required "roll" .score
    <*> .required "baseTarget" .score
    <*> .required "target" .score
    <*> .required "success" .bool
    <*> .required "degrees" .score
    <*> .required "unadjustedDegrees" .score
    <*> .required "modifierTotal" .score
    <*> .required "appliedModifiers" (.list Modifier.read)
    <*> .required "allModifiers" (.list Modifier.read)
    <*> .required "adjustments" (.list .text)

def read : Reader CheckResult := record.read "CheckResult"

/-- The fields of a result as they are written. -/
def fields (r : CheckResult) : Entries Json :=
  [("actor", r.actor.toJson),
   ("label", .string r.label),
   ("domain", r.domain.toJson),
   ("roll", .score r.roll),
   ("baseTarget", .score r.baseTarget),
   ("target", .score r.target),
   ("success", .bool r.success),
   ("degrees", .score r.degrees),
   ("unadjustedDegrees", .score r.unadjustedDegrees),
   ("modifierTotal", .score r.modifierTotal),
   ("appliedModifiers", .array (r.appliedModifiers.map Modifier.toJson)),
   ("allModifiers", .array (r.allModifiers.map Modifier.toJson)),
   ("adjustments", .array (r.adjustments.map .string))]

def toJson (r : CheckResult) : Json := .ofFields r.fields

end CheckResult

end Percentile
