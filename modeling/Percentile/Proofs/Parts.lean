import Percentile.Predicate.Statement

/-!
# The parts of a statement

A statement is built from others by `and`, `or` and `not`. Facts about it are shown by
`Statement.induction`, with the hypothesis for each operand, and what matters about its depths is
which parts stand there and under how many denials (`Statement.StandsUnder`).
-/

namespace Percentile

namespace Statement

/-- **Induction over statements**, with the hypothesis for each operand. -/
@[elab_as_elim]
theorem induction {motive : Statement → Prop} (atom : ∀ tag, motive (.atom tag))
    (negated : ∀ tag, motive (.negated tag))
    (all : ∀ items, (∀ s ∈ items, motive s) → motive (.all items))
    (any : ∀ items, (∀ s ∈ items, motive s) → motive (.any items))
    (not : ∀ inner, motive inner → motive (.not inner))
    (malformed : ∀ raw, motive (.malformed raw)) (s : Statement) : motive s := by
  refine Statement.rec (motive_2 := fun items => ∀ s ∈ items, motive s) atom negated all any not
    malformed (by simp) ?_ s
  intro first rest hfirst hrest s hs
  rcases List.mem_cons.1 hs with rfl | hs
  · exact hfirst
  · exact hrest s hs

/-- The statements that a statement joins or denies. -/
def operands : Statement → List Statement
  | .atom _ | .negated _ | .malformed _ => []
  | .all items | .any items => items
  | .not inner => [inner]

/-- The part stands in a statement, somewhere under so many denials. -/
inductive StandsUnder (part : Statement) : Nat → Statement → Prop
  | self : StandsUnder part 0 part
  | all {items : List Statement} {s : Statement} {denials : Nat} (hs : s ∈ items)
      (h : StandsUnder part denials s) : StandsUnder part denials (.all items)
  | any {items : List Statement} {s : Statement} {denials : Nat} (hs : s ∈ items)
      (h : StandsUnder part denials s) : StandsUnder part denials (.any items)
  | not {inner : Statement} {denials : Nat} (h : StandsUnder part denials inner) :
      StandsUnder part (denials + 1) (.not inner)

/-- The part stands somewhere in a statement. -/
def PartOf (part s : Statement) : Prop := ∃ denials, StandsUnder part denials s

/-- A part is the statement itself or a part of an operand. -/
theorem partOf_iff {part s : Statement} :
    part.PartOf s ↔ part = s ∨ ∃ operand ∈ s.operands, part.PartOf operand := by
  constructor
  · rintro ⟨denials, h⟩
    cases h with
    | self => exact .inl rfl
    | all hs h | any hs h => exact .inr ⟨_, hs, denials, h⟩
    | not h => exact .inr ⟨_, List.mem_singleton_self _, _, h⟩
  · rintro (rfl | ⟨operand, hoperand, denials, h⟩)
    · exact ⟨0, .self⟩
    · cases s with
      | atom _ | negated _ | malformed _ => cases hoperand
      | all items => exact ⟨denials, .all hoperand h⟩
      | any items => exact ⟨denials, .any hoperand h⟩
      | not inner =>
        rw [List.mem_singleton.1 hoperand] at h
        exact ⟨denials + 1, .not h⟩

end Statement

end Percentile
