import Percentile.Dice.ChaCha

/-!
# Dice

A *die roller* is a state from which dice can be rolled one after the other. There are two.

**Seeded dice** draw words from a stream. A word is scaled to the number of faces, and rejected if
it falls into the part of the range that would favour some faces over others. A roll that rejects a
whole period of the stream would reject forever, so it ends there with the first face.

**Scripted dice** show a list of results, each moved to the nearest face that the die has. When the
list is used up they go on as seeded dice that have not been used before.

A die without faces counts as a die with one.
-/

namespace Percentile

/-- A state from which dice can be rolled one after the other. -/
class DieRoller (σ : Type) where
  /-- Roll a die with the given number of faces: the face, and the state after the roll. -/
  rollDie : σ → UInt32 → UInt32 × σ

def DieRoller.d100 {σ : Type} [DieRoller σ] (dice : σ) : UInt32 × σ := rollDie dice 100

/-- The number of faces that a die counts as having. -/
def facesOf (sides : UInt32) : UInt32 := max sides 1

/-- Dice that draw from a stream of words. -/
structure SeededDice where
  /-- The key of the stream. -/
  key : ChaCha.Key
  /-- The number of words drawn so far. -/
  position : Nat
  deriving DecidableEq

namespace SeededDice

/-- The unused dice of a seed. -/
def ofSeed (seed : UInt64) : SeededDice := ⟨ChaCha.keyOfSeed seed, 0⟩

/-- The greatest low half of a scaled word that is not rejected: the number of faces moved to the
top of a 32-bit word, less one. -/
def zone (faces : Nat) : Nat := (faces <<< (31 - faces.log2)) - 1

/-- Draw words from a position until one is not rejected, and give its face and the position after
it. -/
def draw (key : ChaCha.Key) (faces : Nat) : Nat → Nat → Nat × Nat
  | 0, position => (1, position)
  | words + 1, position =>
    let scaled := (ChaCha.word key position).toNat * faces
    if scaled % 4294967296 ≤ zone faces then (scaled / 4294967296 + 1, position + 1)
    else draw key faces words (position + 1)

instance : DieRoller SeededDice where
  rollDie dice sides :=
    let (face, position) := draw dice.key (facesOf sides).toNat ChaCha.period dice.position
    (UInt32.ofNat face, { dice with position })

end SeededDice

/-- Dice that show a list of results first. -/
structure ScriptedDice where
  queue : List UInt32
  fallback : SeededDice := .ofSeed 0
  deriving DecidableEq

namespace ScriptedDice

def remaining (dice : ScriptedDice) : Nat := dice.queue.length

instance : DieRoller ScriptedDice where
  rollDie dice sides :=
    match dice.queue with
    | result :: queue => (max 1 (min result (facesOf sides)), { dice with queue })
    | [] =>
      let (face, fallback) := DieRoller.rollDie dice.fallback sides
      (face, { dice with fallback })

end ScriptedDice

/-- Dice of either kind. -/
inductive Dice where
  | seeded (dice : SeededDice)
  | scripted (dice : ScriptedDice)
  deriving DecidableEq

namespace Dice

/-- The number of scripted results still to come, if the dice are scripted. -/
def remaining? : Dice → Option Nat
  | .seeded _ => none
  | .scripted dice => some dice.remaining

instance : DieRoller Dice where
  rollDie
    | .seeded dice, sides =>
      let (face, dice) := DieRoller.rollDie dice sides
      (face, .seeded dice)
    | .scripted dice, sides =>
      let (face, dice) := DieRoller.rollDie dice sides
      (face, .scripted dice)

/-- Roll dice with the given numbers of sides, one after the other. -/
def rollAll {σ : Type} [DieRoller σ] (dice : σ) : List UInt32 → List UInt32 × σ
  | [] => ([], dice)
  | sides :: rest =>
    let (face, dice) := DieRoller.rollDie dice sides
    let (faces, dice) := rollAll dice rest
    (face :: faces, dice)

end Dice

end Percentile
