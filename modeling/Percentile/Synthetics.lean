import Percentile.Domain
import Percentile.Modifier
import Percentile.Synthetics.Entry

/-!
# Synthetics

The *synthetics* of a character are everything that the rules of its items have produced in one
preparation: roll options, modifiers and dice overrides by domain, and three lists of adjustments.
Checks and derived values read from them. They start empty in every preparation and only grow during
it.

**By domain.** What applies in a domain is what stands under its lineage: its own entries first,
then those of its parent.

**Toughness** is the base plus all summands, then times all factors. **Damage** is halved once if
any resistance against its type halves, rounding down; then the flat resistances are subtracted, and
nothing goes below zero.
-/

namespace Percentile

/-- What the rules of one character have produced. -/
structure Synthetics where
  rollOptions : RollOptions := ∅
  /-- Modifiers by the text of their domain. -/
  modifiers : Table (List Modifier) := ∅
  degreeAdjustments : List DegreeAdjustment := []
  resistances : List Resistance := []
  toughnessAdjustments : List ToughnessAdjustment := []
  /-- Dice overrides by the text of their domain. -/
  diceOverrides : Table (List DiceOverride) := ∅
  deriving DecidableEq

/-- Append a value to the list under a key. -/
def Table.append {α : Type} (t : Table (List α)) (key : String) (a : α) : Table (List α) :=
  t.put key fun old => old.getD [] ++ [a]

/-- The values under the domains of a list, in the order of the domains. -/
def Table.along {α : Type} (t : Table (List α)) (domains : List Domain) : List α :=
  domains.flatMap fun d => (t.find? d.text).getD []

namespace Synthetics

def empty : Synthetics := {}

instance : EmptyCollection Synthetics := ⟨empty⟩

instance : Inhabited Synthetics := ⟨∅⟩

def addRollOption (s : Synthetics) (tag : String) : Synthetics :=
  { s with rollOptions := s.rollOptions.insert tag }

def addModifier (s : Synthetics) (domain : Domain) (m : Modifier) : Synthetics :=
  { s with modifiers := s.modifiers.append domain.text m }

def addDiceOverride (s : Synthetics) (domain : Domain) (o : DiceOverride) : Synthetics :=
  { s with diceOverrides := s.diceOverrides.append domain.text o }

def addDegreeAdjustment (s : Synthetics) (a : DegreeAdjustment) : Synthetics :=
  { s with degreeAdjustments := s.degreeAdjustments ++ [a] }

def addResistance (s : Synthetics) (r : Resistance) : Synthetics :=
  { s with resistances := s.resistances ++ [r] }

def addToughnessAdjustment (s : Synthetics) (a : ToughnessAdjustment) : Synthetics :=
  { s with toughnessAdjustments := s.toughnessAdjustments ++ [a] }

/-- The effects of both, those of the first before those of the second. -/
def append (s t : Synthetics) : Synthetics where
  rollOptions := s.rollOptions ∪ t.rollOptions
  modifiers := s.modifiers.merge (· ++ ·) t.modifiers
  degreeAdjustments := s.degreeAdjustments ++ t.degreeAdjustments
  resistances := s.resistances ++ t.resistances
  toughnessAdjustments := s.toughnessAdjustments ++ t.toughnessAdjustments
  diceOverrides := s.diceOverrides.merge (· ++ ·) t.diceOverrides

instance : Append Synthetics := ⟨append⟩

def modifiersFor (s : Synthetics) (domain : Domain) : List Modifier :=
  s.modifiers.along domain.lineage

def diceOverridesFor (s : Synthetics) (domain : Domain) : List DiceOverride :=
  s.diceOverrides.along domain.lineage

/-- Toughness after all adjustments. -/
def toughness (s : Synthetics) (base : Score) : Score :=
  let summands := s.toughnessAdjustments.filter (·.mode == .add)
  let factors := s.toughnessAdjustments.filter (·.mode == .multiply)
  factors.foldl (· * ·.value) (summands.foldl (· + ·.value) base)

/-- The damage that is left of an amount after all resistances against its type. -/
def damageLeft (s : Synthetics) (damageType : String) (amount : Score) : Score :=
  let against := s.resistances.filter (·.isAgainst damageType)
  let halved := if against.any (·.mode == .half) then amount.divFloor 2 else amount
  let flat := Score.sum ((against.filter (·.mode == .flat)).map (·.value))
  max (halved - flat) 0

def record : Record Synthetics :=
  Synthetics.mk
    <$> .required "rollOptions" RollOptions.read
    <*> .required "modifiers" (.table (.list Modifier.read))
    <*> .required "dosAdjustments" (.list DegreeAdjustment.read)
    <*> .required "resistances" (.list Resistance.read)
    <*> .required "toughnessAdjustments" (.list ToughnessAdjustment.read)
    <*> .required "diceOverrides" (.table (.list DiceOverride.read))

def read : Reader Synthetics := record.read "Synthetics"

def toJson (s : Synthetics) : Json := .ofFields
  [("rollOptions", s.rollOptions.toJson),
   ("modifiers", .ofTable (s.modifiers.map fun ms => .array (ms.map Modifier.toJson))),
   ("dosAdjustments", .array (s.degreeAdjustments.map DegreeAdjustment.toJson)),
   ("resistances", .array (s.resistances.map Resistance.toJson)),
   ("toughnessAdjustments", .array (s.toughnessAdjustments.map ToughnessAdjustment.toJson)),
   ("diceOverrides", .ofTable (s.diceOverrides.map fun os => .array (os.map DiceOverride.toJson)))]

end Synthetics

end Percentile
