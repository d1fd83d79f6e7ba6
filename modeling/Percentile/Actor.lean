import Percentile.Rule.Registry

/-!
# Actors

An *actor* is a character with characteristics and items. Its synthetics are derived: they are
neither read nor written, and a preparation rebuilds them in two phases, first discarding the old
ones and then running the rules of all items.
-/

namespace Percentile

/-- The number of an actor. -/
structure ActorId where
  raw : UInt32
  deriving DecidableEq

instance : Inhabited ActorId := ⟨⟨0⟩⟩

instance : ToString ActorId := ⟨fun id => s!"Actor({id.raw})"⟩

namespace ActorId

def read : Reader ActorId := fun d => (Reader.word d).map .mk

def toJson (id : ActorId) : Json := .int id.raw.toNat

end ActorId

structure Actor where
  id : ActorId := default
  name : String
  /-- Characteristics by their short names. -/
  characteristics : Table Score := ∅
  items : List Item := []
  /-- What its rules produced in the last preparation. -/
  synthetics : Synthetics := ∅
  deriving DecidableEq

namespace Actor

/-- The characteristic that toughness starts from. -/
def toughnessKey : String := "t"

def withCharacteristic (a : Actor) (key : String) (value : Score) : Actor :=
  { a with characteristics := a.characteristics.insert key value }

/-- Add an item behind the others. -/
def withItem (a : Actor) (item : Item) : Actor := { a with items := a.items ++ [item] }

/-- Take away all items of a name. -/
def withoutItems (a : Actor) (name : String) : Actor :=
  { a with items := a.items.filter (·.name != name) }

/-- Change the item at a position, if there is one. -/
def modifyItem (a : Actor) (position : Nat) (f : Item → Item) : Actor :=
  { a with items := a.items.modify position f }

/-- A characteristic. One that the actor lacks is zero. -/
def characteristic (a : Actor) (key : String) : Score := (a.characteristics.find? key).getD 0

/-- The first phase of a preparation: discard the old synthetics. -/
def prepareBaseData (a : Actor) : Actor := { a with synthetics := ∅ }

/-- The second phase of a preparation: run the rules of all items. -/
def prepareEmbeddedRules (a : Actor) (r : Registry) : Actor × PreparationStats :=
  let (synthetics, stats) := r.prepare a.items a.synthetics
  ({ a with synthetics }, stats)

/-- Both phases of a preparation. -/
def prepareData (a : Actor) (r : Registry) : Actor × PreparationStats :=
  a.prepareBaseData.prepareEmbeddedRules r

def toughness (a : Actor) : Score := a.synthetics.toughness (a.characteristic toughnessKey)

/-- The tens of toughness, rounded down. -/
def toughnessBonus (a : Actor) : Score := a.toughness.divFloor 10

/-- How an actor is read. It has no synthetics until it is prepared. -/
def record : Record Actor :=
  (fun id name characteristics items => { id, name, characteristics, items })
    <$> .optional "id" ActorId.read default
    <*> .required "name" .text
    <*> .optional "characteristics" (.table .score) ∅
    <*> .optional "items" (.list Item.read) []

def read : Reader Actor := record.read "Actor"

/-- Write an actor without its synthetics. -/
def toJson (a : Actor) : Json := .ofFields
  [("id", a.id.toJson),
   ("name", .string a.name),
   ("characteristics", .ofTable (a.characteristics.map .score)),
   ("items", .array (a.items.map Item.toJson))]

end Actor

end Percentile
