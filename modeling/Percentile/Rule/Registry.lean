import Percentile.Rule.Element

/-!
# The rule registry

A *registry* knows kinds of rules by key and turns rule sources into elements. A host may register
further keys, for instance old names of a kind. Sources with an unknown key are no error, so content
for a later version still loads.

**A preparation** runs all rules of a list of items. A source that gives no element is skipped, an
element that fails is counted, and neither keeps the others from running (`Registry.prepare`).
-/

namespace Percentile

/-- Builds a rule from its source. -/
abbrev RuleFactory := Json → Except ReadError Rule

namespace RuleFactory

/-- The factory of a kind of rule: it reads the fields into a structure and wraps that. -/
def ofRecord {α : Type} (r : Record α) (type : String) (wrap : α → Rule) : RuleFactory :=
  fun source => ((r.read type).readValue source).map wrap

/-- The factories of the eight kinds, by key. -/
def builtin : Entries RuleFactory :=
  [("FlatModifier", ofRecord Rule.FlatModifier.record "FlatModifierRule" .flatModifier),
   ("RollOption", ofRecord Rule.RollOption.record "RollOptionRule" .rollOption),
   ("DiceOverride", ofRecord Rule.DiceOverride.record "DiceOverrideRule" .diceOverride),
   ("AdjustDegree", ofRecord Rule.AdjustDegree.record "AdjustDegreeRule" .adjustDegree),
   ("Resistance", ofRecord Rule.Resistance.record "ResistanceRule" .resistance),
   ("AdjustToughness", ofRecord Rule.AdjustToughness.record "AdjustToughnessRule" .adjustToughness),
   ("GrantItem", ofRecord Rule.GrantItem.record "GrantItemRule" .grantItem),
   ("ChoiceSet", ofRecord Rule.ChoiceSet.record "ChoiceSetRule" .choiceSet)]

end RuleFactory

structure Registry where
  factories : Table RuleFactory

/-- What a preparation did with the rule sources. -/
structure PreparationStats where
  /-- How many elements took effect. -/
  applied : Nat := 0
  /-- How many sources gave no element. -/
  skipped : Nat := 0
  failed : Nat := 0
  deriving DecidableEq

namespace Registry

/-- The registry that knows no key. -/
def empty : Registry := ⟨∅⟩

/-- The registry of the eight kinds. -/
def builtin : Registry := ⟨.ofEntries RuleFactory.builtin⟩

/-- Register a factory under a key, in place of any other. -/
def register (r : Registry) (key : String) (factory : RuleFactory) : Registry :=
  ⟨r.factories.insert key factory⟩

def contains (r : Registry) (key : String) : Bool := r.factories.contains key

def keys (r : Registry) : List String := r.factories.keys

/-- The element of a rule source, `none` if its key is unknown. -/
def instantiate (r : Registry) (source : Json) (owner : Item) :
    Except RuleError (Option Element) :=
  match (source.field? "key").bind Json.string? with
  | none => .error .missingKey
  | some key =>
    match r.factories.find? key with
    | none => .ok none
    | some factory =>
      match factory source with
      | .error cause => .error (.malformed key cause)
      | .ok rule => .ok (some (.declare owner ((source.field? "label").bind Json.string?) rule))

/-- The element of a rule source, if it gives one. -/
def element? (r : Registry) (source : Json) (owner : Item) : Option Element :=
  match r.instantiate source owner with
  | .ok e => e
  | .error _ => none

/-- Run one rule source of an item. -/
def runSource (r : Registry) (item : Item) (acc : Synthetics × PreparationStats) (source : Json) :
    Synthetics × PreparationStats :=
  match r.element? source item with
  | none => (acc.1, { acc.2 with skipped := acc.2.skipped + 1 })
  | some e =>
    match e.prepare item acc.1 with
    | (s, .ok ()) => (s, { acc.2 with applied := acc.2.applied + 1 })
    | (s, .error _) => (s, { acc.2 with failed := acc.2.failed + 1 })

/-- Run all rule sources of an item. -/
def runItem (r : Registry) (acc : Synthetics × PreparationStats) (item : Item) :
    Synthetics × PreparationStats :=
  item.rules.foldl (r.runSource item) acc

/-- Run all rule sources of a list of items on top of the given synthetics. -/
def prepare (r : Registry) (items : List Item) (s : Synthetics) : Synthetics × PreparationStats :=
  items.foldl r.runItem (s, {})

end Registry

end Percentile
