import Percentile.Domain
import Percentile.Rule.Choice
import Percentile.Rule.Value
import Percentile.Synthetics.Entry

/-!
# Rules

A *rule* is one effect that an item declares. There are eight kinds, each with fields of its own.
Content writes a rule as an object, its *source*, with the kind under `key` and the fields beside
it. Other fields, such as the label to display, are no part of the rule.

Every kind has a reader and a writer of its fields. Fields of the source that the kind does not know
are ignored.
-/

namespace Percentile

namespace Rule

/-- Adds a modifier to every check in a domain. -/
structure FlatModifier where
  domain : Domain
  value : RuleValue
  /-- The source to display, by default the name of the item. -/
  source : Option String := none
  predicate : Predicate := .always
  exclusionGroup : Option String := none
  /-- Whether the modifier may be switched on and off. -/
  toggleable : Bool := false
  deriving DecidableEq

/-- Adds a roll option. -/
structure RollOption where
  option : String
  deriving DecidableEq

/-- Changes how the dice of a domain are rolled. -/
structure DiceOverride where
  domain : Domain
  mode : DiceMode
  deriving DecidableEq

/-- Adds to the degrees of checks. -/
structure AdjustDegree where
  /-- What is added. -/
  amount : Score
  /-- The condition on roll options. -/
  predicate : Predicate := .always
  deriving DecidableEq

/-- Resists a type of damage. -/
structure Resistance where
  damageType : String
  /-- What is subtracted, by default nothing. -/
  value : Option RuleValue := none
  /-- How the damage is reduced. -/
  mode : ResistanceMode := .flat
  deriving DecidableEq

/-- Changes toughness. -/
structure AdjustToughness where
  /-- The summand or factor. -/
  value : RuleValue
  /-- How it combines with the base. -/
  mode : ToughnessMode := .add
  deriving DecidableEq

/-- Grants another item. The host creates it, so preparation has nothing to do. -/
structure GrantItem where
  uuid : String
  deriving DecidableEq

/-- Asks for a choice, which is stored on the item, and turns it into a roll option. -/
structure ChoiceSet where
  prompt : String := ""
  choices : List Choice := []
  /-- The flag under which the choice is stored. -/
  flag : String
  deriving DecidableEq

/-- The roll option of a stored choice. -/
def ChoiceSet.optionFor (r : ChoiceSet) (stored : String) : String :=
  "choice:" ++ r.flag ++ ":" ++ stored

end Rule

/-- An effect that an item declares. -/
inductive Rule where
  | flatModifier (r : Rule.FlatModifier)
  | rollOption (r : Rule.RollOption)
  | diceOverride (r : Rule.DiceOverride)
  | adjustDegree (r : Rule.AdjustDegree)
  | resistance (r : Rule.Resistance)
  | adjustToughness (r : Rule.AdjustToughness)
  | grantItem (r : Rule.GrantItem)
  | choiceSet (r : Rule.ChoiceSet)
  deriving DecidableEq

namespace Rule

def key : Rule → String
  | .flatModifier _ => "FlatModifier"
  | .rollOption _ => "RollOption"
  | .diceOverride _ => "DiceOverride"
  | .adjustDegree _ => "AdjustDegree"
  | .resistance _ => "Resistance"
  | .adjustToughness _ => "AdjustToughness"
  | .grantItem _ => "GrantItem"
  | .choiceSet _ => "ChoiceSet"

/-! ## Reading -/

def FlatModifier.record : Record FlatModifier :=
  FlatModifier.mk
    <$> .required "domain" Domain.read
    <*> .required "value" RuleValue.read
    <*> .optional "source" (.option .text) none
    <*> .optional "predicate" Predicate.read .always
    <*> .optional "exclusionGroup" (.option .text) none
    <*> .optional "toggleable" .bool false

def RollOption.record : Record RollOption := RollOption.mk <$> .required "option" .text

def DiceOverride.record : Record DiceOverride :=
  DiceOverride.mk <$> .required "domain" Domain.read <*> .required "mode" DiceMode.read

def AdjustDegree.record : Record AdjustDegree :=
  AdjustDegree.mk
    <$> .required "amount" .score
    <*> .optional "predicate" Predicate.read .always

def Resistance.record : Record Resistance :=
  Resistance.mk
    <$> .required "damageType" .text
    <*> .optional "value" (.option RuleValue.read) none
    <*> .optional "mode" ResistanceMode.read .flat

def AdjustToughness.record : Record AdjustToughness :=
  AdjustToughness.mk
    <$> .required "value" RuleValue.read
    <*> .optional "mode" ToughnessMode.read .add

def GrantItem.record : Record GrantItem := GrantItem.mk <$> .required "uuid" .text

def ChoiceSet.record : Record ChoiceSet :=
  ChoiceSet.mk
    <$> .optional "prompt" .text ""
    <*> .optional "choices" (.list Choice.read) []
    <*> .required "flag" .text

/-! ## Writing -/

/-- Write the fields of a rule, without its kind. -/
def toJson : Rule → Json
  | .flatModifier r => .ofFields
    [("domain", r.domain.toJson),
     ("value", r.value.toJson),
     ("source", r.source.elim .null .string),
     ("predicate", r.predicate.toJson),
     ("exclusionGroup", r.exclusionGroup.elim .null .string),
     ("toggleable", .bool r.toggleable)]
  | .rollOption r => .ofFields [("option", .string r.option)]
  | .diceOverride r => .ofFields [("domain", r.domain.toJson), ("mode", r.mode.toJson)]
  | .adjustDegree r => .ofFields
    [("amount", .score r.amount), ("predicate", r.predicate.toJson)]
  | .resistance r => .ofFields
    [("damageType", .string r.damageType),
     ("value", r.value.elim .null RuleValue.toJson),
     ("mode", r.mode.toJson)]
  | .adjustToughness r => .ofFields [("value", r.value.toJson), ("mode", r.mode.toJson)]
  | .grantItem r => .ofFields [("uuid", .string r.uuid)]
  | .choiceSet r => .ofFields
    [("prompt", .string r.prompt),
     ("choices", .array (r.choices.map Choice.toJson)),
     ("flag", .string r.flag)]

end Rule

end Percentile
