import Percentile.Rule
import Percentile.Synthetics

/-!
# Rule elements

A *rule element* is a rule together with the item that declares it. Preparing an element writes its
effect into the synthetics of the character.

**Fail before writing.** An element whose domain, option, damage type or flag is empty fails and
leaves the synthetics as they were. All else succeeds.

**What an element sees of its item** is its rating and its choices, and its name for a source to
display and for an error.
-/

namespace Percentile

/-- Why a rule source gives no effect. -/
inductive RuleError where
  | missingKey
  /-- The fields of the source are not those of its kind. -/
  | malformed (key : String) (cause : ReadError)
  /-- A field that must not be empty is. -/
  | emptyField (key : String) (item : String) (field : String)
  deriving DecidableEq

namespace RuleError

/-- The message of an error, if its cause has one. -/
def message? : RuleError → Option String
  | .missingKey => some "rule source has no `key` field"
  | .malformed key cause => cause.message?.map fun text => s!"malformed {key} rule: {text}"
  | .emptyField key item field => some s!"{key} rule on `{item}` has an empty {field}"

/-- The message to a host, which has to say which part of the library it comes from. -/
def report? (e : RuleError) : Option String := e.message?.map ("rule element error: " ++ ·)

end RuleError

/-- A rule with the item that declares it. -/
structure Element where
  owner : ItemId
  label : String
  rule : Rule
  deriving DecidableEq

namespace Element

/-- The element of a rule that an item declares, labelled by default with the name of the item. -/
def declare (owner : Item) (label : Option String) (rule : Rule) : Element where
  owner := owner.id
  label := label.getD owner.name
  rule := rule

def key (e : Element) : String := e.rule.key

def modifier (e : Element) (r : Rule.FlatModifier) (owner : Item) : Modifier where
  label := e.label
  value := r.value.resolve owner
  source := r.source.getD owner.name
  exclusionGroup := r.exclusionGroup
  predicate := r.predicate
  toggleable := r.toggleable

/-- Write the effect of an element into the synthetics. -/
def prepare (e : Element) (owner : Item) (s : Synthetics) : Synthetics × Except RuleError Unit :=
  let empty (field : String) := (s, .error (.emptyField e.key owner.name field))
  match e.rule with
  | .flatModifier r =>
    if r.domain.isEmpty then empty "domain"
    else (s.addModifier r.domain (e.modifier r owner), .ok ())
  | .rollOption r =>
    if r.option.isEmpty then empty "option" else (s.addRollOption r.option, .ok ())
  | .diceOverride r =>
    if r.domain.isEmpty then empty "domain"
    else (s.addDiceOverride r.domain ⟨r.mode, e.label⟩, .ok ())
  | .adjustDegree r => (s.addDegreeAdjustment ⟨r.amount, r.predicate, e.label⟩, .ok ())
  | .resistance r =>
    if r.damageType.isEmpty then empty "damageType"
    else
      let value := (r.value.getD default).resolve owner
      (s.addResistance ⟨r.damageType, value, r.mode, e.label⟩, .ok ())
  | .adjustToughness r =>
    (s.addToughnessAdjustment ⟨r.value.resolve owner, r.mode, e.label⟩, .ok ())
  | .grantItem _ => (s, .ok ())
  | .choiceSet r =>
    if r.flag.isEmpty then empty "flag"
    else
      match owner.choice? r.flag with
      | some stored => (s.addRollOption (r.optionFor stored), .ok ())
      | none => (s, .ok ())

end Element

end Percentile
