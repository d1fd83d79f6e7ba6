import Percentile.Reader.Record

/-!
# Items

A character owns *items*: talents, weapons, armour. An item carries host data as attributes, raw
rule sources, and the choices made for it.

**Attributes** are kept as they are, whatever their shape. Only a whole number that is a score
counts as a number; `4.5`, `2.0` and `"3"` do not. The attribute `rating` is what rules refer to.

**Rule sources** stay raw JSON, so that those of an unknown kind survive loading and saving.
-/

namespace Percentile

inductive Attribute where
  | int (n : Score)
  /-- Anything else, as it is. -/
  | other (j : Json)
  deriving DecidableEq

namespace Attribute

/-- The attribute of a JSON value. -/
def ofJson (j : Json) : Attribute := j.score?.elim (.other j) .int

/-- The number, if the attribute is one. -/
def score? : Attribute → Option Score
  | .int n => some n
  | .other _ => none

def toJson : Attribute → Json
  | .int n => .score n
  | .other j => j

/-- Read an attribute. Only what cannot be read as a score is kept as it is. -/
def read : Reader Attribute :=
  .firstOf "AttributeValue"
    [fun d => (Reader.score d).map .int, fun d => (Reader.any d).map .other]

end Attribute

/-- The number of an item. -/
structure ItemId where
  raw : UInt32
  deriving DecidableEq

instance : Inhabited ItemId := ⟨⟨0⟩⟩

instance : ToString ItemId := ⟨fun id => s!"Item({id.raw})"⟩

def ItemId.read : Reader ItemId := fun d => (Reader.word d).map .mk

/-- An item that a character owns. -/
structure Item where
  id : ItemId := default
  name : String
  /-- Host data by key. -/
  attributes : Table Attribute := ∅
  rules : List Json := []
  /-- The choices made, by the flag of the rule that asks for them. -/
  choices : Table String := ∅
  deriving DecidableEq

namespace Item

/-- The key of the attribute that rules refer to. -/
def ratingKey : String := "rating"

def withAttribute (item : Item) (key : String) (a : Attribute) : Item :=
  { item with attributes := item.attributes.insert key a }

/-- Add a rule source behind the others. -/
def withRule (item : Item) (source : Json) : Item := { item with rules := item.rules ++ [source] }

/-- Record the choice for a flag. -/
def withChoice (item : Item) (flag value : String) : Item :=
  { item with choices := item.choices.insert flag value }

def attribute? (item : Item) (key : String) : Option Attribute := item.attributes.find? key

/-- The number under a key, or the default where there is none. -/
def scoreAt (item : Item) (key : String) (default : Score) : Score :=
  ((item.attribute? key).bind Attribute.score?).getD default

/-- The rating of the item. An item without one has rating zero. -/
def rating (item : Item) : Score := item.scoreAt ratingKey 0

def choice? (item : Item) (flag : String) : Option String := item.choices.find? flag

def record : Record Item :=
  Item.mk
    <$> .optional "id" ItemId.read default
    <*> .required "name" .text
    <*> .optional "attributes" (.table Attribute.read) ∅
    <*> .optional "rules" (.list .any) []
    <*> .optional "choices" (.table .text) ∅

def read : Reader Item := record.read "Item"

/-- Write an item with all its fields. -/
def toJson (item : Item) : Json := .ofFields
  [("id", .int item.id.raw.toNat),
   ("name", .string item.name),
   ("attributes", .ofTable (item.attributes.map Attribute.toJson)),
   ("rules", .array item.rules),
   ("choices", .ofTable (item.choices.map .string))]

end Item

end Percentile
