import Mathlib.Data.List.Forall2
import Mathlib.Data.UInt
import Percentile.Dice

/-!
# What dice show

Dice are rolled one after the other, each with its own number of sides, and all of them change the
same state. This file says which faces come up.

**Faces** (`LawfulDieRoller`). Whatever their state is, dice of either kind show a face that the
die has. Seeded dice scale a word down to the number of faces, and words that they reject do not
matter for that.

**Scripts** (`ScriptedDice.rollAll_eq`). As long as there are results left, scripted dice take one
for each roll and do not touch the dice behind them. After that only these are rolled, and go on
from roll to roll.

**Theorem (`script_then_fresh_dice`).** So a script of `n` results decides the first `n` rolls, and
the others are those of unused dice of seed zero, which have seen neither the script nor the sides
of the first `n` dice.
-/

namespace Percentile

/-! ## Faces -/

/-- A die with this number of sides shows this face. A die without sides has one face. -/
def IsFace (sides face : UInt32) : Prop := 1 ≤ face.toNat ∧ face.toNat ≤ max sides.toNat 1

/-- Dice that show only faces that the die has. -/
class LawfulDieRoller (σ : Type) [DieRoller σ] : Prop where
  isFace (dice : σ) (sides : UInt32) : IsFace sides (DieRoller.rollDie dice sides).1

theorem toNat_facesOf (sides : UInt32) : (facesOf sides).toNat = max sides.toNat 1 :=
  UInt32.toNat_max sides 1

namespace SeededDice

/-- A word scaled down to a number of faces is less than it. -/
theorem scaled_div_lt {word faces : Nat} (hword : word < 4294967296) (hfaces : 0 < faces) :
    word * faces / 4294967296 < faces := by
  rw [Nat.div_lt_iff_lt_mul (by decide), Nat.mul_comm faces]
  exact Nat.mul_lt_mul_of_pos_right hword hfaces

/-- **However many words are rejected**, the face that is drawn in the end is one of the die. -/
theorem draw_le {faces : Nat} (hfaces : 0 < faces) (key : ChaCha.Key) (words position : Nat) :
    1 ≤ (draw key faces words position).1 ∧ (draw key faces words position).1 ≤ faces := by
  induction words generalizing position with
  | zero => exact ⟨Nat.le_refl 1, hfaces⟩
  | succ words ih =>
    rw [draw]
    split
    · have hless := scaled_div_lt (ChaCha.word key position).toNat_lt hfaces
      exact ⟨Nat.le_add_left 1 _, hless⟩
    · exact ih (position + 1)

instance : LawfulDieRoller SeededDice where
  isFace dice sides := by
    have hfaces : 0 < (facesOf sides).toNat := by
      rw [toNat_facesOf]
      omega
    have hbound := (facesOf sides).toNat_lt
    obtain ⟨hlow, hhigh⟩ := draw_le hfaces dice.key ChaCha.period dice.position
    have hface : (DieRoller.rollDie dice sides).1.toNat =
        (draw dice.key (facesOf sides).toNat ChaCha.period dice.position).1 :=
      UInt32.toNat_ofNat_of_lt' (Nat.lt_of_le_of_lt hhigh hbound)
    rw [IsFace, hface, ← toNat_facesOf]
    exact ⟨hlow, hhigh⟩

end SeededDice

namespace ScriptedDice

/-- The face that a die shows for a result of the script. -/
def faceFor (result sides : UInt32) : UInt32 := max 1 (min result (facesOf sides))

theorem toNat_faceFor (result sides : UInt32) :
    (faceFor result sides).toNat = max 1 (min result.toNat (max sides.toNat 1)) := by
  rw [faceFor, UInt32.toNat_max, UInt32.toNat_min, toNat_facesOf]
  rfl

theorem isFace_faceFor (result sides : UInt32) : IsFace sides (faceFor result sides) := by
  rw [IsFace, toNat_faceFor]
  omega

instance : LawfulDieRoller ScriptedDice where
  isFace dice sides := by
    obtain ⟨queue, fallback⟩ := dice
    cases queue with
    | nil => exact LawfulDieRoller.isFace fallback sides
    | cons result queue => exact isFace_faceFor result sides

end ScriptedDice

namespace Dice

instance : LawfulDieRoller Dice where
  isFace
    | .seeded dice, sides => LawfulDieRoller.isFace dice sides
    | .scripted dice, sides => LawfulDieRoller.isFace dice sides

variable {σ : Type} [DieRoller σ]

/-- Each roll shows a face of its die. -/
theorem forall₂_isFace_rollAll [LawfulDieRoller σ] (dice : σ) (sides : List UInt32) :
    List.Forall₂ IsFace sides (rollAll dice sides).1 := by
  induction sides generalizing dice with
  | nil => exact .nil
  | cons n rest ih => exact .cons (LawfulDieRoller.isFace dice n) (ih _)

/-- What is rolled first does not depend on what is rolled later. -/
theorem rollAll_take (dice : σ) (sides : List UInt32) (k : Nat) :
    (rollAll dice (sides.take k)).1 = (rollAll dice sides).1.take k := by
  induction sides generalizing dice k with
  | nil => rw [List.take_nil, rollAll, List.take_nil]
  | cons n rest ih =>
    cases k with
    | zero => rfl
    | succ k => exact congrArg _ (ih _ k)

end Dice

/-! ## Scripts -/

namespace ScriptedDice

/-- **A script first, the dice behind it later.** The rolls take the results from the front of the
queue, and what is rolled beyond them is rolled with the fallback alone. -/
theorem rollAll_eq (dice : ScriptedDice) (sides : List UInt32) :
    let later := Dice.rollAll dice.fallback (sides.drop dice.queue.length)
    Dice.rollAll dice sides =
      (List.zipWith faceFor dice.queue sides ++ later.1,
        ⟨dice.queue.drop sides.length, later.2⟩) := by
  induction sides generalizing dice with
  | nil => simp [Dice.rollAll]
  | cons n rest ih =>
    obtain ⟨queue, fallback⟩ := dice
    cases queue with
    | nil =>
      have hrest := ih ⟨[], (DieRoller.rollDie fallback n).2⟩
      simp only [List.zipWith_nil_left, List.length_nil, List.drop_zero, List.nil_append,
        List.drop_nil] at hrest ⊢
      show ((DieRoller.rollDie fallback n).1 ::
        (Dice.rollAll (⟨[], (DieRoller.rollDie fallback n).2⟩ : ScriptedDice) rest).1,
        (Dice.rollAll (⟨[], (DieRoller.rollDie fallback n).2⟩ : ScriptedDice) rest).2) = _
      rw [hrest]
      rfl
    | cons result queue =>
      show (faceFor result n :: (Dice.rollAll (⟨queue, fallback⟩ : ScriptedDice) rest).1,
        (Dice.rollAll (⟨queue, fallback⟩ : ScriptedDice) rest).2) = _
      rw [ih]
      rfl

/-- The results of the script come up in their order, each on its die. -/
theorem getElem?_rollAll {dice : ScriptedDice} {sides : List UInt32} {k : Nat} {result n : UInt32}
    (hresult : dice.queue[k]? = some result) (hsides : sides[k]? = some n) :
    (Dice.rollAll dice sides).1[k]? = some (faceFor result n) := by
  have hshown : (List.zipWith faceFor dice.queue sides)[k]? = some (faceFor result n) :=
    List.getElem?_zipWith_eq_some.2 ⟨result, n, hresult, hsides, rfl⟩
  obtain ⟨hlt, _⟩ := List.getElem?_eq_some_iff.1 hshown
  rw [rollAll_eq, List.getElem?_append_left hlt, hshown]

/-- Behind the script there are only the rolls of the fallback. -/
theorem drop_rollAll (dice : ScriptedDice) (sides : List UInt32) :
    (Dice.rollAll dice sides).1.drop dice.queue.length =
      (Dice.rollAll dice.fallback (sides.drop dice.queue.length)).1 := by
  by_cases hlength : dice.queue.length ≤ sides.length
  · rw [rollAll_eq]
    apply List.drop_left'
    rw [List.length_zipWith, Nat.min_eq_left hlength]
  · have hrolls := (Dice.forall₂_isFace_rollAll dice sides).length_eq
    rw [List.drop_eq_nil_of_le (by omega : sides.length ≤ dice.queue.length),
      List.drop_eq_nil_of_le (by omega), Dice.rollAll]

theorem remaining_rollAll (dice : ScriptedDice) (sides : List UInt32) :
    (Dice.rollAll dice sides).2.remaining = dice.remaining - sides.length := by
  rw [rollAll_eq]
  exact List.length_drop

/-- **A script decides as many rolls as it has results.** The `k`-th roll shows the `k`-th result,
moved to the nearest face of its die. Behind the script come the rolls of unused dice of seed zero,
and they depend on nothing but the sides from there on. After `k` rolls the script has lost `k`
results, or all. Each roll shows a face of its die. -/
theorem script_then_fresh_dice (queue sides : List UInt32) :
    let dice : ScriptedDice := { queue }
    let faces := (Dice.rollAll dice sides).1
    (∀ (k : Nat) (result n : UInt32), queue[k]? = some result → sides[k]? = some n →
      ∃ face, faces[k]? = some face ∧
        face.toNat = max 1 (min result.toNat (max n.toNat 1))) ∧
    faces.drop queue.length =
      (Dice.rollAll (SeededDice.ofSeed 0) (sides.drop queue.length)).1 ∧
    (∀ k, k ≤ sides.length →
      (Dice.rollAll dice (sides.take k)).1 = faces.take k ∧
      (Dice.rollAll dice (sides.take k)).2.remaining = queue.length - k) ∧
    List.Forall₂ (fun n face => 1 ≤ face.toNat ∧ face.toNat ≤ max n.toNat 1) sides faces := by
  intro dice faces
  refine ⟨fun k result n hresult hsides => ?_, dice.drop_rollAll sides, fun k hk => ⟨?_, ?_⟩,
    Dice.forall₂_isFace_rollAll dice sides⟩
  · exact ⟨faceFor result n, getElem?_rollAll hresult hsides, toNat_faceFor result n⟩
  · exact Dice.rollAll_take dice sides k
  · rw [remaining_rollAll, List.length_take, Nat.min_eq_left hk]
    rfl

/-! ### A script with results that no die shows

Three percentile dice show 40, and 1 and 100 for results beyond their faces. A die with the greatest
number of sides and one without any are rolled with unused dice.
-/

def forced : List UInt32 := [40, 0, 250]

def forcedSides : List UInt32 := [100, 100, 100, 4294967295, 0]

theorem script_then_fresh_dice_forced :
    let dice : ScriptedDice := { queue := forced }
    let faces := (Dice.rollAll dice forcedSides).1
    (∃ face, faces[2]? = some face ∧ face.toNat = 100) ∧
    forcedSides.drop forced.length = [4294967295, 0] ∧
    faces.drop forced.length =
      (Dice.rollAll (SeededDice.ofSeed 0) (forcedSides.drop forced.length)).1 ∧
    (Dice.rollAll dice (forcedSides.take 2)).2.remaining = 1 := by
  obtain ⟨hscript, hfresh, hspent, _⟩ := script_then_fresh_dice forced forcedSides
  exact ⟨hscript 2 250 100 rfl rfl, rfl, hfresh, (hspent 2 (by decide)).2⟩

end ScriptedDice

end Percentile
