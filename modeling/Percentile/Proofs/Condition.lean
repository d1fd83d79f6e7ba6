import Mathlib.Tactic.MkIffOfInductiveProp
import Percentile.Predicate

/-!
# The language of conditions

Content writes the condition of a rule as JSON. This file says what that language is and what it
means, on the JSON itself, and that reading a condition and testing it agrees with both.

**The grammar** (`Json.IsStatement`). A statement is a string, or an object with one field: `and`
or `or` over an array of statements, or `not` over a statement.

**The meaning** (`Json.IsTrue`). A string holds if the tag is present, one that starts with `not:`
if the rest of it is absent. The three operators are the connectives of logic, over all children.

**Reading** (`wellFormed_ofJson_iff`, `holds_ofJson_iff`). A value is read as a well-formed
statement exactly if it is in the grammar, and then it holds exactly if it is true.

**Theorem (`test_ofJson?_iff`).** A predicate passes exactly if each of its statements is in the
grammar and true. So one part outside the grammar, however deep, makes it fail for all options.
-/

namespace Percentile

namespace Json

/-! ## The grammar -/

/-- The values that are statements, with all their parts. -/
@[mk_iff]
inductive IsStatement : Json → Prop
  | text (tag : String) : IsStatement (.string tag)
  | all {items : List Json} (h : ∀ j ∈ items, IsStatement j) :
      IsStatement (.object [("and", .array items)])
  | any {items : List Json} (h : ∀ j ∈ items, IsStatement j) :
      IsStatement (.object [("or", .array items)])
  | not {inner : Json} (h : IsStatement inner) : IsStatement (.object [("not", inner)])

/-- The parts of a value: the value itself, and the parts of the operands of an operator. -/
inductive PartOf (n : Json) : Json → Prop
  | self : PartOf n n
  | all {items : List Json} {j : Json} (hj : j ∈ items) (h : PartOf n j) :
      PartOf n (.object [("and", .array items)])
  | any {items : List Json} {j : Json} (hj : j ∈ items) (h : PartOf n j) :
      PartOf n (.object [("or", .array items)])
  | not {inner : Json} (h : PartOf n inner) : PartOf n (.object [("not", inner)])

/-- The statements of a condition, which may be absent. -/
def statements : Option Json → List Json
  | none | some .null => []
  | some (.array items) => items
  | some j => [j]

theorem isStatement_and_iff {items : List Json} :
    IsStatement (.object [("and", .array items)]) ↔ ∀ j ∈ items, IsStatement j := by
  rw [isStatement_iff]
  simp

theorem isStatement_or_iff {items : List Json} :
    IsStatement (.object [("or", .array items)]) ↔ ∀ j ∈ items, IsStatement j := by
  rw [isStatement_iff]
  simp

theorem isStatement_not_iff {inner : Json} :
    IsStatement (.object [("not", inner)]) ↔ IsStatement inner := by
  rw [isStatement_iff]
  simp

/-- The parts of a statement are statements. -/
theorem IsStatement.of_partOf {n j : Json} (h : IsStatement j) (hn : PartOf n j) :
    IsStatement n := by
  induction hn with
  | self => exact h
  | all hj _ ih => exact ih (isStatement_and_iff.1 h _ hj)
  | any hj _ ih => exact ih (isStatement_or_iff.1 h _ hj)
  | not _ ih => exact ih (isStatement_not_iff.1 h)

/-! ## The meaning -/

theorem sizeOf_operand_lt {items : List Json} {j : Json} (hj : j ∈ items) (key : String) :
    sizeOf j < sizeOf (Json.object [(key, .array items)]) := by
  have := List.sizeOf_lt_of_mem hj
  simp
  omega

/-- Whether a statement is true where the given roll options hold. -/
def IsTrue (options : RollOptions) : Json → Prop
  | .string text =>
    (∀ tag, text = "not:" ++ tag → tag ∉ options) ∧
      ((∀ tag, text ≠ "not:" ++ tag) → text ∈ options)
  | .object [("and", .array items)] => ∀ j, j ∈ items → IsTrue options j
  | .object [("or", .array items)] => ∃ j, ∃ _ : j ∈ items, IsTrue options j
  | .object [("not", inner)] => ¬ IsTrue options inner
  | _ => False
termination_by j => sizeOf j
decreasing_by
  · exact sizeOf_operand_lt ‹_› _
  · exact sizeOf_operand_lt ‹_› _
  · simp
    omega

end Json

/-! ## Reading -/

namespace Statement

open Json

theorem denied?_eq_some_iff {text tag : String} :
    denied? text = some tag ↔ text = "not:" ++ tag := by
  unfold denied?
  constructor
  · intro h
    split at h
    · rename_i rest hrest
      rw [← Option.some.inj h, ← String.toList_inj, hrest]
      simp
    · cases h
  · rintro rfl
    simp

theorem wellFormed_ofText (text : String) : (ofText text).wellFormed = true := by
  unfold ofText
  cases denied? text <;> rfl

/-- **Induction along the reading of a value**: the four shapes of a statement, and all else. -/
@[elab_as_elim]
theorem ofJson_induction {motive : Json → Prop} (text : ∀ tag, motive (.string tag))
    (all : ∀ items, (∀ j ∈ items, motive j) → motive (.object [("and", .array items)]))
    (any : ∀ items, (∀ j ∈ items, motive j) → motive (.object [("or", .array items)]))
    (not : ∀ inner, motive inner → motive (.object [("not", inner)]))
    (other : ∀ raw, ofJson raw = .malformed raw → motive raw) (j : Json) : motive j := by
  refine Statement.ofJson.induct motive (fun items => ∀ j ∈ items, motive j) text all any not
    (fun raw htext hand hor hnot => other raw (ofJson.eq_5 raw htext hand hor hnot)) (by simp) ?_ j
  intro item rest hitem hrest j hj
  rcases List.mem_cons.1 hj with rfl | hj
  · exact hitem
  · exact hrest j hj

theorem not_isStatement_of_malformed {raw : Json} (h : ofJson raw = .malformed raw) :
    ¬ raw.IsStatement := by
  intro hraw
  cases hraw with
  | text tag =>
    rw [ofJson, ofText] at h
    split at h <;> cases h
  | all _ | any _ | not _ => simp [ofJson] at h

/-- A value is read as a well-formed statement exactly if it is in the grammar. -/
theorem wellFormed_ofJson_iff (j : Json) : (ofJson j).wellFormed = true ↔ j.IsStatement := by
  induction j using ofJson_induction with
  | text tag =>
    rw [ofJson]
    exact iff_of_true (wellFormed_ofText tag) (.text tag)
  | all items ih =>
    rw [isStatement_and_iff, ofJson, wellFormed, allWellFormed_eq_all, ofItems_eq_map, List.all_map,
      List.all_eq_true]
    exact forall₂_congr ih
  | any items ih =>
    rw [isStatement_or_iff, ofJson, wellFormed, allWellFormed_eq_all, ofItems_eq_map, List.all_map,
      List.all_eq_true]
    exact forall₂_congr ih
  | not inner ih => rw [isStatement_not_iff, ofJson, wellFormed, ih]
  | other raw h =>
    rw [h]
    exact iff_of_false Bool.false_ne_true (not_isStatement_of_malformed h)

instance : DecidablePred IsStatement := fun j => decidable_of_iff _ (wellFormed_ofJson_iff j)

theorem holds_ofText_iff (text : String) (options : RollOptions) :
    (ofText text).holds options = true ↔ (Json.string text).IsTrue options := by
  rw [IsTrue]
  simp only [ne_eq, ← denied?_eq_some_iff]
  unfold ofText
  cases hdenied : denied? text with
  | none => simp [holds, RollOptions.mem_iff]
  | some tag => simp [holds, RollOptions.mem_iff]

/-- A statement of the grammar holds, once it is read, exactly if it is true. -/
theorem holds_ofJson_iff {j : Json} (h : j.IsStatement) (options : RollOptions) :
    (ofJson j).holds options = true ↔ j.IsTrue options := by
  induction h with
  | text tag => exact holds_ofText_iff tag options
  | all _ ih =>
    rw [IsTrue, ofJson, holds, allHold_eq_all, ofItems_eq_map, List.all_map, List.all_eq_true]
    exact forall₂_congr ih
  | any _ ih =>
    rw [IsTrue, ofJson, holds, anyHolds_eq_any, ofItems_eq_map, List.any_map, List.any_eq_true]
    simp only [exists_prop]
    exact exists_congr fun j => and_congr_right (ih j)
  | not _ ih =>
    rw [IsTrue, ofJson, holds, ← ih]
    simp

end Statement

namespace Predicate

open Json

theorem statements_ofJson? (raw : Option Json) :
    (ofJson? raw).statements = (Json.statements raw).map Statement.ofJson := by
  cases raw with
  | none => rfl
  | some j => cases j <;> rfl

/-- **A condition passes exactly if all of its statements are in the grammar and true.** One part of
a statement that is not in the grammar makes it fail, whatever the roll options. -/
theorem test_ofJson?_iff (raw : Option Json) :
    (∀ options, (ofJson? raw).test options = true ↔
      ∀ j ∈ Json.statements raw, j.IsStatement ∧ j.IsTrue options) ∧
    ∀ j ∈ Json.statements raw, ∀ n, PartOf n j → ¬ n.IsStatement →
      ∀ options, (ofJson? raw).test options = false := by
  have hpasses : ∀ options, (ofJson? raw).test options = true ↔
      ∀ j ∈ Json.statements raw, j.IsStatement ∧ j.IsTrue options := by
    intro options
    rw [test, statements_ofJson?, Bool.and_eq_true, List.all_map, List.all_map, List.all_eq_true,
      List.all_eq_true]
    constructor
    · rintro ⟨hformed, hholds⟩ j hj
      have hj' := (Statement.wellFormed_ofJson_iff j).1 (hformed j hj)
      exact ⟨hj', (Statement.holds_ofJson_iff hj' options).1 (hholds j hj)⟩
    · intro h
      exact ⟨fun j hj => (Statement.wellFormed_ofJson_iff j).2 (h j hj).1,
        fun j hj => (Statement.holds_ofJson_iff (h j hj).1 options).2 (h j hj).2⟩
  refine ⟨hpasses, fun j hj n hn hnot options => ?_⟩
  rw [← Bool.not_eq_true, hpasses]
  exact fun h => hnot ((h j hj).1.of_partOf hn)

/-! ### An operator that does not exist

It stands under `not`, behind an operand that holds, and after a statement that holds.
-/

/-- An operator over one tag. -/
def ofProne (operator : String) : Json := .object [(operator, .array [.string "prone"])]

/-- An alternative to aiming. -/
def aimingOr (denied : Json) : Json :=
  .object [("or", .array [.string "aiming", .object [("not", denied)]])]

/-- A statement that holds, and the alternative. -/
def condition (denied : Json) : Option Json :=
  some (.array [.string "not:prone", aimingOr denied])

theorem test_ofJson?_iff_aiming :
    PartOf (ofProne "nand") (aimingOr (ofProne "nand")) ∧ ¬ (ofProne "nand").IsStatement ∧
      (ofJson? (condition (ofProne "nand"))).test (.ofList ["aiming"]) = false ∧
      (ofJson? (condition (ofProne "and"))).test (.ofList ["aiming"]) = true := by
  have hpart : PartOf (ofProne "nand") (aimingOr (ofProne "nand")) := .any (by simp) (.not .self)
  have hnot : ¬ (ofProne "nand").IsStatement := by decide +kernel
  have hfails := (test_ofJson?_iff (condition (ofProne "nand"))).2 _
    (by simp [condition, Json.statements]) _ hpart hnot (.ofList ["aiming"])
  exact ⟨hpart, hnot, hfails, by decide +kernel⟩

end Predicate

end Percentile
