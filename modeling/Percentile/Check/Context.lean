import Percentile.Actor

/-!
# Check contexts

The *context* of a check says who checks what against which base target, and what the situation adds
to the synthetics of the actor. Some roll options follow from the context itself.
-/

namespace Percentile

/-- The circumstances of one check. -/
structure Context where
  /-- Who checks. -/
  actor : Actor
  /-- The target before modifiers. -/
  baseTarget : Score
  label : String
  /-- The kind of check. -/
  domain : Domain
  modifiers : List Modifier := []
  rollOptions : RollOptions := ∅
  characteristic : Option String := none
  skill : Option String := none
  /-- Whether the check is rolled without confirmation. -/
  skipDialog : Bool := false
  deriving DecidableEq

namespace Context

def ofCharacteristic (actor : Actor) (key label : String) : Context where
  actor := actor
  baseTarget := actor.characteristic key
  label := label
  domain := ⟨"characteristic:" ++ key⟩
  characteristic := some key

/-- The roll options that follow from the context itself. -/
def derivedOptions (c : Context) : RollOptions :=
  .ofList <|
    ["self:check", "check:domain:" ++ c.domain.text]
      ++ (c.characteristic.map ("self:characteristic:" ++ ·)).toList
      ++ (c.skill.map ("self:skill:" ++ ·)).toList

end Context

end Percentile
