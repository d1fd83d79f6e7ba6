import Percentile.Predicate
import Percentile.Reader.Record

/-!
# Modifiers

A *modifier* is a signed contribution to the target of a check, with a label, a source, and the
conditions under which it counts. Modifiers are plain values: a check works on its own, so switching
one off there changes nothing elsewhere.
-/

namespace Percentile

/-- A signed contribution to a check. -/
structure Modifier where
  label : String
  value : Score
  source : String := ""
  /-- The group in which modifiers of one sign compete instead of adding up. -/
  exclusionGroup : Option String := none
  /-- The condition on roll options under which the modifier counts. -/
  predicate : Predicate := .always
  enabled : Bool := true
  /-- Whether it may be switched on and off while a check awaits confirmation. -/
  toggleable : Bool := false
  deriving DecidableEq

namespace Modifier

/-- The penalty for a called shot. -/
def calledShot : Modifier where
  label := "Called Shot"
  value := .clamp (-20)
  source := "Called Shot"

/-- Whether the modifier counts under a set of roll options. -/
def isActive (m : Modifier) (options : RollOptions) : Bool := m.enabled && m.predicate.test options

def isBonus (m : Modifier) : Bool := 0 < m.value

def isPenalty (m : Modifier) : Bool := m.value < 0

def record : Record Modifier :=
  Modifier.mk
    <$> .required "label" .text
    <*> .required "value" .score
    <*> .optional "source" .text ""
    <*> .optional "exclusionGroup" (.option .text) none
    <*> .optional "predicate" Predicate.read .always
    <*> .optional "enabled" .bool true
    <*> .optional "toggleable" .bool false

def read : Reader Modifier := record.read "Modifier"

/-- Write a modifier with all its fields. -/
def toJson (m : Modifier) : Json := .ofFields
  [("label", .string m.label),
   ("value", .score m.value),
   ("source", .string m.source),
   ("exclusionGroup", m.exclusionGroup.elim .null .string),
   ("predicate", m.predicate.toJson),
   ("enabled", .bool m.enabled),
   ("toggleable", .bool m.toggleable)]

end Modifier

end Percentile
