import Mathlib.Algebra.Ring.Parity
import Percentile.Predicate
import Percentile.Proofs.Parts

/-!
# What a predicate sees

A predicate is tested against a whole set of roll options, of which it looks at the few tags that it
mentions. This file says how its verdict depends on these, for two sets `A` and `B`.

**Polarity.** A tag is wanted where it stands as an atom under an even number of denials, or as a
negated tag under an odd number, and unwanted elsewhere.

**The invariant** (`Statement.Favours`). On the way from `A` to `B`, each literal under an even
number of denials may start to hold but does not cease to, and under an odd number the other way
round. A denial swaps `A` and `B`, the other connectives change nothing.

**Theorem (`test_sees_mentioned_tags`).** Sets that agree on the tags a predicate mentions give the
same verdict. A set with more tags, which are all wanted wherever they are mentioned, does not make
a predicate fail that passed.
-/

namespace Percentile

namespace Statement

/-! ## Statements -/

/-- Whether the statement is a tag or a negated one. -/
def IsLiteral : Statement → Prop
  | .atom _ | .negated _ => True
  | _ => False

/-- On the way from `A` to `B`, the literals under an even number of denials do not cease to hold,
and those under an odd number do not start to. -/
def Favours (A B : RollOptions) (s : Statement) : Prop :=
  ∀ literal denials, IsLiteral literal → StandsUnder literal denials s →
    (Even denials → literal.holds A = true → literal.holds B = true) ∧
      (Odd denials → literal.holds B = true → literal.holds A = true)

variable {A B : RollOptions} {s : Statement} {items : List Statement}

theorem Favours.of_all (h : Favours A B (.all items)) (hs : s ∈ items) : Favours A B s :=
  fun literal denials hliteral hstands => h literal denials hliteral (.all hs hstands)

theorem Favours.of_any (h : Favours A B (.any items)) (hs : s ∈ items) : Favours A B s :=
  fun literal denials hliteral hstands => h literal denials hliteral (.any hs hstands)

/-- A denial swaps the directions. -/
theorem Favours.of_not (h : Favours A B (.not s)) : Favours B A s := by
  intro literal denials hliteral hstands
  obtain ⟨heven, hodd⟩ := h literal (denials + 1) hliteral (.not hstands)
  exact ⟨fun h => hodd h.add_one, fun h => heven h.add_one⟩

/-- **Favoured statements do not cease to hold.** -/
theorem Favours.holds (h : Favours A B s) (hA : s.holds A = true) : s.holds B = true := by
  induction s using Statement.induction generalizing A B with
  | atom tag => exact (h (.atom tag) 0 trivial .self).1 Even.zero hA
  | negated tag => exact (h (.negated tag) 0 trivial .self).1 Even.zero hA
  | all items ih =>
    simp only [Statement.holds, allHold_eq_all, List.all_eq_true] at hA ⊢
    exact fun s hs => ih s hs (h.of_all hs) (hA s hs)
  | any items ih =>
    simp only [Statement.holds, anyHolds_eq_any, List.any_eq_true] at hA ⊢
    obtain ⟨s, hs, hholds⟩ := hA
    exact ⟨s, hs, ih s hs (h.of_any hs) hholds⟩
  | not inner ih =>
    -- If the inner statement held for `B`, it would hold for `A`.
    simp only [Statement.holds, Bool.not_eq_true', Bool.eq_false_iff] at hA ⊢
    exact fun hB => hA (ih h.of_not hB)
  | malformed raw => exact hA

/-- Sets that agree on the tags that a statement mentions favour it in both directions. -/
theorem favours_of_agree
    (h : ∀ tag, (atom tag).PartOf s ∨ (negated tag).PartOf s → (tag ∈ A ↔ tag ∈ B)) :
    Favours A B s := by
  intro literal denials hliteral hstands
  have hsame : literal.holds A = literal.holds B := by
    cases literal with
    | atom tag => exact Bool.eq_iff_iff.2 (h tag (.inl ⟨denials, hstands⟩))
    | negated tag =>
      have hcontains : A.contains tag = B.contains tag :=
        Bool.eq_iff_iff.2 (h tag (.inr ⟨denials, hstands⟩))
      rw [Statement.holds, Statement.holds, hcontains]
    | all _ | any _ | not _ | malformed _ => cases hliteral
  rw [hsame]
  exact ⟨fun _ => id, fun _ => id⟩

/-- A larger set favours a statement that mentions the new tags only where they are wanted. -/
theorem favours_of_subset (hsubset : ∀ tag ∈ A, tag ∈ B)
    (hwants : ∀ tag ∈ B, tag ∉ A → ∀ denials,
      (StandsUnder (.atom tag) denials s → Even denials) ∧
        (StandsUnder (.negated tag) denials s → Odd denials)) :
    Favours A B s := by
  intro literal denials hliteral hstands
  cases literal with
  | atom tag =>
    refine ⟨fun _ => hsubset tag, fun hodd hB => ?_⟩
    by_contra hA
    exact Nat.not_even_iff_odd.2 hodd ((hwants tag hB hA denials).1 hstands)
  | negated tag =>
    simp only [Statement.holds, Bool.not_eq_true', Bool.eq_false_iff]
    refine ⟨fun heven hA hB => ?_, fun _ hB hA => hB (hsubset tag hA)⟩
    exact Nat.not_even_iff_odd.2 ((hwants tag hB hA denials).2 hstands) heven
  | all _ | any _ | not _ | malformed _ => cases hliteral

end Statement

/-! ## Predicates -/

namespace Predicate

open Statement (StandsUnder Favours favours_of_agree favours_of_subset)

/-- Whether the predicate mentions a tag, at any depth. -/
def Mentions (p : Predicate) (tag : String) : Prop :=
  ∃ s ∈ p.statements, (Statement.atom tag).PartOf s ∨ (Statement.negated tag).PartOf s

/-- Whether the tag is wanted wherever the predicate mentions it. -/
def Wants (p : Predicate) (tag : String) : Prop :=
  ∀ s ∈ p.statements, ∀ denials,
    (StandsUnder (.atom tag) denials s → Even denials) ∧
      (StandsUnder (.negated tag) denials s → Odd denials)

/-- A predicate whose statements are all favoured does not cease to pass. -/
theorem test_of_favours {p : Predicate} {A B : RollOptions}
    (h : ∀ s ∈ p.statements, Favours A B s) (hA : p.test A = true) : p.test B = true := by
  simp only [test, Bool.and_eq_true, List.all_eq_true] at hA ⊢
  exact ⟨hA.1, fun s hs => (h s hs).holds (hA.2 s hs)⟩

/-- **A predicate sees the tags that it mentions.** More tags that it wants do not make it fail. -/
theorem test_sees_mentioned_tags (p : Predicate) (A B : RollOptions) :
    ((∀ tag, p.Mentions tag → (tag ∈ A ↔ tag ∈ B)) → p.test A = p.test B) ∧
    ((∀ tag ∈ A, tag ∈ B) → (∀ tag ∈ B, tag ∉ A → p.Wants tag) →
      p.test A = true → p.test B = true) := by
  refine ⟨fun hagree => ?_, fun hsubset hwants => ?_⟩
  · have hthere : ∀ s ∈ p.statements, Favours A B s :=
      fun s hs => favours_of_agree fun tag hmentions => hagree tag ⟨s, hs, hmentions⟩
    have hback : ∀ s ∈ p.statements, Favours B A s :=
      fun s hs => favours_of_agree fun tag hmentions => (hagree tag ⟨s, hs, hmentions⟩).symm
    exact Bool.eq_iff_iff.2 ⟨test_of_favours hthere, test_of_favours hback⟩
  · exact test_of_favours fun s hs =>
      favours_of_subset hsubset fun tag hB hA => hwants tag hB hA s hs

/-! ### A quiet shot

A sniper has to aim, or not to be without a silencer, which is denied twice. Fog is mentioned
nowhere, and the silencer is wanted.
-/

def quiet : Statement := .any [.atom "self:aiming", .not (.negated "weapon:silenced")]

def aiming : RollOptions := .ofList ["self:aiming"]

theorem atom_of_quiet {tag : String} {denials : Nat} (h : StandsUnder (.atom tag) denials quiet) :
    tag = "self:aiming" := by
  cases h with
  | any hs h =>
    rcases List.mem_cons.1 hs with rfl | hs
    · cases h
      rfl
    · rw [List.mem_singleton.1 hs] at h
      cases h with
      | not h => cases h

theorem negated_of_quiet {tag : String} {denials : Nat}
    (h : StandsUnder (.negated tag) denials quiet) : tag = "weapon:silenced" ∧ denials = 1 := by
  cases h with
  | any hs h =>
    rcases List.mem_cons.1 hs with rfl | hs
    · cases h
    · rw [List.mem_singleton.1 hs] at h
      cases h with
      | not h =>
        cases h
        exact ⟨rfl, rfl⟩

theorem test_sees_mentioned_tags_silencer :
    test ⟨[quiet]⟩ aiming = test ⟨[quiet]⟩ (aiming.insert "weather:fog") ∧
      test ⟨[quiet]⟩ (aiming.insert "weapon:silenced") = true := by
  refine ⟨(test_sees_mentioned_tags _ _ _).1 ?_, (test_sees_mentioned_tags _ aiming _).2 ?_ ?_ ?_⟩
  · rintro tag ⟨s, hs, hmentions⟩
    rw [List.mem_singleton.1 hs] at hmentions
    rcases hmentions with ⟨denials, h⟩ | ⟨denials, h⟩
    · rw [atom_of_quiet h]
      decide
    · rw [(negated_of_quiet h).1]
      decide
  · intro tag htag
    exact RollOptions.mem_insert.2 (.inr htag)
  · intro tag hnew hold s hs denials
    rw [(RollOptions.mem_insert.1 hnew).resolve_right hold, List.mem_singleton.1 hs]
    refine ⟨fun h => absurd (atom_of_quiet h) (by decide), fun h => ?_⟩
    rw [(negated_of_quiet h).2]
    exact odd_one
  · decide

end Predicate

end Percentile
