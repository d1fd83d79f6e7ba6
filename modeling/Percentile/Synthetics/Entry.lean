import Percentile.Predicate
import Percentile.Reader.Record

/-!
# Entries of the synthetics

The kinds of effect, besides modifiers, that the rules of a character's items leave behind: changes
to the degrees of a check, resistances against damage, changes to toughness, and changes to how dice
are rolled. Each carries a source to display.
-/

namespace Percentile

/-- A change to the degrees of a check under a condition. -/
structure DegreeAdjustment where
  amount : Score
  predicate : Predicate
  source : String
  deriving DecidableEq

namespace DegreeAdjustment

/-- Whether the change applies under a set of roll options. -/
def applies (a : DegreeAdjustment) (options : RollOptions) : Bool := a.predicate.test options

def record : Record DegreeAdjustment :=
  DegreeAdjustment.mk
    <$> .required "amount" .score
    <*> .required "predicate" Predicate.read
    <*> .required "source" .text

def read : Reader DegreeAdjustment := record.read "DegreeAdjustment"

def toJson (a : DegreeAdjustment) : Json := .ofFields
  [("amount", .score a.amount), ("predicate", a.predicate.toJson), ("source", .string a.source)]

end DegreeAdjustment

/-- How a resistance reduces damage. -/
inductive ResistanceMode where
  /-- The value is subtracted. -/
  | flat
  /-- The damage is halved. -/
  | half
  deriving DecidableEq

namespace ResistanceMode

def names : List (String × ResistanceMode) := [("flat", .flat), ("half", .half)]

def read : Reader ResistanceMode := .name names

def toJson : ResistanceMode → Json
  | .flat => .string "flat"
  | .half => .string "half"

end ResistanceMode

/-- A resistance against a type of damage. -/
structure Resistance where
  /-- The type of damage, or `all`. -/
  damageType : String
  /-- What is subtracted in the flat mode. -/
  value : Score
  mode : ResistanceMode
  source : String
  deriving DecidableEq

namespace Resistance

/-- The type that stands for all types of damage. -/
def allTypes : String := "all"

/-- Whether two texts are equal up to the case of ASCII letters. -/
def sameType (a b : String) : Bool := a.toList.map Char.toLower == b.toList.map Char.toLower

/-- Whether the resistance works against a type of damage. -/
def isAgainst (r : Resistance) (damageType : String) : Bool :=
  r.damageType == allTypes || sameType r.damageType damageType

def record : Record Resistance :=
  Resistance.mk
    <$> .required "damageType" .text
    <*> .required "value" .score
    <*> .required "mode" ResistanceMode.read
    <*> .required "source" .text

def read : Reader Resistance := record.read "Resistance"

def toJson (r : Resistance) : Json := .ofFields
  [("damageType", .string r.damageType), ("value", .score r.value), ("mode", r.mode.toJson),
   ("source", .string r.source)]

end Resistance

/-- How a change to toughness combines with the base. -/
inductive ToughnessMode where
  | add
  | multiply
  deriving DecidableEq

namespace ToughnessMode

def names : List (String × ToughnessMode) := [("add", .add), ("multiply", .multiply)]

def read : Reader ToughnessMode := .name names

def toJson : ToughnessMode → Json
  | .add => .string "add"
  | .multiply => .string "multiply"

end ToughnessMode

/-- A change to toughness. -/
structure ToughnessAdjustment where
  /-- The summand or factor. -/
  value : Score
  mode : ToughnessMode
  source : String
  deriving DecidableEq

namespace ToughnessAdjustment

def record : Record ToughnessAdjustment :=
  ToughnessAdjustment.mk
    <$> .required "value" .score
    <*> .required "mode" ToughnessMode.read
    <*> .required "source" .text

def read : Reader ToughnessAdjustment := record.read "ToughnessAdjustment"

def toJson (a : ToughnessAdjustment) : Json := .ofFields
  [("value", .score a.value), ("mode", a.mode.toJson), ("source", .string a.source)]

end ToughnessAdjustment

/-- How the dice of a domain are rolled. The library only passes this on to the host. -/
inductive DiceMode where
  /-- The lowest die is rolled again. -/
  | rerollLowest
  /-- Every die shows its maximum. -/
  | maximize
  /-- Every die shows its minimum. -/
  | minimize
  /-- A mode of the host. -/
  | custom (name : String)
  deriving DecidableEq

namespace DiceMode

/-- The mode of a text. Rolling the lowest die again has two spellings. -/
def ofText (text : String) : DiceMode :=
  if text = "reroll-lowest" ∨ text = "rerollLowest" then .rerollLowest
  else if text = "maximize" then .maximize
  else if text = "minimize" then .minimize
  else .custom text

/-- The text of a mode. -/
def toText : DiceMode → String
  | .rerollLowest => "reroll-lowest"
  | .maximize => "maximize"
  | .minimize => "minimize"
  | .custom name => name

def read : Reader DiceMode := fun d => (Reader.text d).map ofText

def toJson (m : DiceMode) : Json := .string m.toText

end DiceMode

/-- A change to how the dice of a domain are rolled. -/
structure DiceOverride where
  mode : DiceMode
  source : String
  deriving DecidableEq

namespace DiceOverride

def record : Record DiceOverride :=
  DiceOverride.mk <$> .required "mode" DiceMode.read <*> .required "source" .text

def read : Reader DiceOverride := record.read "DiceOverride"

def toJson (o : DiceOverride) : Json := .ofFields
  [("mode", o.mode.toJson), ("source", .string o.source)]

end DiceOverride

end Percentile
