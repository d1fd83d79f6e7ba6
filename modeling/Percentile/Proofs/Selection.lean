import Mathlib.Data.List.FinRange

/-!
# Selection by surroundings

Some selections from a list look at more than the member itself: whether it is kept depends on what
stands before it and on what stands after it. `keepWhere` is that selection for any test.

**Positions** (`keepWhere_eq_positions`). The kept members are those at the positions that pass.

**Filters** (`keepWhere_filter`). A selection from a filtered list is a selection from the list
whose test sees the filtered surroundings alone. Where the surroundings do not matter, selection is
a filter itself (`keepWhere_eq_filter`).

**One more member** (`keepWhere_append_singleton`). A member added at the end is seen by all others
and sees all of them.
-/

namespace Percentile

section Surroundings

variable {α : Type}

/-- The members of a list that pass a test on what stands before them, themselves, and what stands
after them. Before the whole list stands `front`. -/
def keepWhere (test : List α → α → List α → Bool) (front : List α) : List α → List α
  | [] => []
  | a :: rest =>
    if test front a rest then a :: keepWhere test (front ++ [a]) rest
    else keepWhere test (front ++ [a]) rest

/-- Selection keeps the members at the positions that pass, in their order. -/
theorem keepWhere_eq_positions (test : List α → α → List α → Bool) (front as : List α) :
    keepWhere test front as =
      ((List.finRange as.length).filter fun i : Fin as.length =>
        test (front ++ as.take i) as[i] (as.drop (i + 1))).map fun i : Fin as.length => as[i] := by
  induction as generalizing front with
  | nil => rfl
  | cons a rest ih =>
    have htail := ih (front ++ [a])
    simp only [List.append_assoc, List.singleton_append] at htail
    simp only [keepWhere, List.length_cons, List.finRange_succ, List.filter_cons, List.filter_map,
      Function.comp_def]
    by_cases hkeep : test front a rest
    · simp [hkeep, htail]
    · simp [hkeep, htail]

/-- To select among the members with a property is to let the test see those members alone. -/
theorem keepWhere_filter (test : List α → α → List α → Bool) (p : α → Bool) (front as : List α) :
    keepWhere test (front.filter p) (as.filter p) =
      keepWhere (fun e a l => p a && test (e.filter p) a (l.filter p)) front as := by
  induction as generalizing front with
  | nil => rfl
  | cons a rest ih =>
    have htail := ih (front ++ [a])
    simp only [List.filter_append] at htail
    by_cases hp : p a
    · simp only [List.filter_cons_of_pos hp, List.filter_nil] at htail
      simp [keepWhere, hp, htail]
    · simp only [List.filter_cons_of_neg hp, List.filter_nil, List.append_nil] at htail
      simp [keepWhere, hp, htail]

theorem mem_keepWhere {test : List α → α → List α → Bool} {front as : List α} {a : α} :
    a ∈ keepWhere test front as ↔
      ∃ earlier later, as = earlier ++ a :: later ∧ test (front ++ earlier) a later = true := by
  induction as generalizing front with
  | nil => simp [keepWhere]
  | cons b rest ih =>
    have hsplit : a ∈ keepWhere test front (b :: rest) ↔
        (a = b ∧ test front b rest = true) ∨ a ∈ keepWhere test (front ++ [b]) rest := by
      by_cases hkeep : test front b rest <;> simp [keepWhere, hkeep]
    rw [hsplit, ih]
    constructor
    · rintro (⟨rfl, hkeep⟩ | ⟨earlier, later, rfl, hkeep⟩)
      · exact ⟨[], rest, rfl, by simpa using hkeep⟩
      · exact ⟨b :: earlier, later, rfl, by simpa using hkeep⟩
    · rintro ⟨earlier, later, hlist, hkeep⟩
      cases earlier with
      | nil =>
        obtain ⟨rfl, rfl⟩ := List.cons.inj hlist
        exact .inl ⟨rfl, by simpa using hkeep⟩
      | cons c earlier =>
        obtain ⟨rfl, rfl⟩ := List.cons.inj hlist
        exact .inr ⟨earlier, later, rfl, by simpa using hkeep⟩

theorem keepWhere_sublist (test : List α → α → List α → Bool) (front as : List α) :
    (keepWhere test front as).Sublist as := by
  induction as generalizing front with
  | nil => exact .slnil
  | cons a rest ih =>
    unfold keepWhere
    split
    · exact (ih _).cons_cons a
    · exact (ih _).cons a

/-- What two kept members satisfy, if the earlier one sees the later one and the other way round. -/
theorem pairwise_keepWhere {test : List α → α → List α → Bool} {R : α → α → Prop}
    (h : ∀ earlier a between b later, test earlier a (between ++ b :: later) = true →
      test (earlier ++ a :: between) b later = true → R a b) (front as : List α) :
    (keepWhere test front as).Pairwise R := by
  induction as generalizing front with
  | nil => exact .nil
  | cons a rest ih =>
    unfold keepWhere
    split
    · rename_i hkeep
      refine List.pairwise_cons.2 ⟨fun b hb => ?_, ih _⟩
      obtain ⟨between, later, rfl, hkept⟩ := mem_keepWhere.1 hb
      exact h front a between b later hkeep (by simpa using hkept)
    · exact ih _

/-- Members of a kind that the test always keeps are all kept. -/
theorem filter_keepWhere {test : List α → α → List α → Bool} {p : α → Bool}
    (h : ∀ earlier a later, p a = true → test earlier a later = true) (front as : List α) :
    (keepWhere test front as).filter p = as.filter p := by
  induction as generalizing front with
  | nil => rfl
  | cons a rest ih =>
    have htail := ih (front ++ [a])
    by_cases hp : p a = true
    · simp [keepWhere, h front a rest hp, hp, htail]
    · by_cases hkeep : test front a rest <;> simp [keepWhere, hkeep, hp, htail]

/-- Selection from a list with one more member: those before it see it behind them, and it sees all
of them before it. -/
theorem keepWhere_append_singleton (test : List α → α → List α → Bool) (front as : List α) (b : α) :
    keepWhere test front (as ++ [b]) =
      keepWhere (fun e a l => test e a (l ++ [b])) front as ++
        if test (front ++ as) b [] then [b] else [] := by
  induction as generalizing front with
  | nil => simp [keepWhere]
  | cons a rest ih =>
    have htail := ih (front ++ [a])
    rw [List.append_assoc, List.singleton_append] at htail
    by_cases hkeep : test front a (rest ++ [b])
    · simp [keepWhere, hkeep, htail]
    · simp [keepWhere, hkeep, htail]

/-- Selection from the values at some places is selection of the places. -/
theorem keepWhere_map {β : Type} (test : List β → β → List β → Bool) (f : α → β)
    (front as : List α) :
    keepWhere test (front.map f) (as.map f) =
      (keepWhere (fun e a l => test (e.map f) (f a) (l.map f)) front as).map f := by
  induction as generalizing front with
  | nil => rfl
  | cons a rest ih =>
    have htail := ih (front ++ [a])
    rw [List.map_append, List.map_singleton] at htail
    by_cases hkeep : test (front.map f) (f a) (rest.map f)
    · simp [keepWhere, hkeep, htail]
    · simp [keepWhere, hkeep, htail]

/-- A test that comes to the same as a property of the members keeps those with the property. -/
theorem keepWhere_eq_filter {test : List α → α → List α → Bool} {p : α → Bool}
    (front as : List α)
    (h : ∀ earlier a later, as = earlier ++ a :: later → test (front ++ earlier) a later = p a) :
    keepWhere test front as = as.filter p := by
  induction as generalizing front with
  | nil => rfl
  | cons a rest ih =>
    have hhead : test front a rest = p a := by simpa using h [] a rest rfl
    have htail := ih (front ++ [a]) fun earlier b later hsplit => by
      simpa using h (a :: earlier) b later (by rw [hsplit, List.cons_append])
    rw [keepWhere, hhead, htail, List.filter_cons]

/-- To ask for a property besides the test is to filter what the test keeps. -/
theorem keepWhere_and (test : List α → α → List α → Bool) (p : α → Bool) (front as : List α) :
    keepWhere (fun e a l => test e a l && p a) front as = (keepWhere test front as).filter p := by
  induction as generalizing front with
  | nil => rfl
  | cons a rest ih =>
    have htail := ih (front ++ [a])
    by_cases hkeep : test front a rest
    · by_cases hp : p a
      · simp [keepWhere, hkeep, hp, htail]
      · simp [keepWhere, hkeep, hp, htail]
    · simp [keepWhere, hkeep, htail]

end Surroundings

end Percentile
