import Mathlib.Data.List.TakeWhile
import Mathlib.Tactic.ByContra
import Percentile.Proofs.Lineage

/-!
# The chain of parents

A domain may have a parent, the parent may have one too, and so on. This file says how long that
chain is and which domains it passes through.

**Standing below** (`Below`). A domain stands below a domain with a separator if its text is that
of the other one, a separator, and anything. So what a domain stands below is found by cutting its
text before any separator but the first.

**One step** (`Continues.below_iff`). The parent is cut before the last separator. So a domain
stands below its parent and below what the parent stands below, and below nothing else.

**Theorem (`ancestors_decompose`).** The chain passes through everything that the domain stands
below, the longest text first, and ends at a depth of two or less. Each step takes away one segment,
so a depth `n` leaves `n - 2` steps.
-/

namespace Percentile

namespace Domain

variable {c d p q : Domain}

/-- The domain `p` has a separator, and the text of `d` is the one of `p`, a separator, and any
tail. -/
def Below (d p : Domain) : Prop :=
  1 ≤ p.separators ∧
    ∃ sep tail, isSeparator sep = true ∧ d.text.toList = p.text.toList ++ sep :: tail

/-- The domain after a number of steps from a domain to its parent, if all of them can be taken. -/
def stepUp? (d : Domain) : Nat → Option Domain
  | 0 => some d
  | steps + 1 => d.parent?.bind fun p => p.stepUp? steps

theorem eq_of_toList (h : c.text.toList = d.text.toList) : c = d := by
  cases c
  cases d
  exact congrArg Domain.mk (String.toList_inj.1 h)

/-! ## One step -/

theorem isEmpty_eq_false (h : 1 ≤ p.separators) : p.isEmpty = false := by
  have hne : p.text ≠ "" := by
    intro hempty
    have hnone : p.separators = 0 := by
      rw [separators, hempty]
      rfl
    omega
  simpa [isEmpty] using hne

/-- The parent has all separators but the last one. -/
theorem Continues.separators_eq (h : c.Continues d) : c.separators = d.separators + 1 := by
  obtain ⟨_, sep, tail, hsep, htail, htext⟩ := h
  have hrest : tail.countP isSeparator = 0 := List.countP_eq_zero.2 (by simpa using htail)
  rw [separators, htext, List.countP_append, List.countP_cons_of_pos hsep, hrest]
  rfl

theorem beforeLast?_eq_none_iff {cs : List Char} :
    beforeLast? cs = none ↔ ∀ x ∈ cs, isSeparator x = false := by
  have hskip : cs.reverse.dropWhile (!isSeparator ·) = [] ↔ ∀ x ∈ cs, isSeparator x = false := by
    rw [List.dropWhile_eq_nil_iff]
    simp
  rw [← hskip, beforeLast?]
  split
  · rename_i hnil
    exact iff_of_true rfl hnil
  · rename_i hcons
    rw [hcons]
    exact iff_of_false (Option.some_ne_none _) (List.cons_ne_nil _ _)

theorem parent?_eq_none_iff : d.parent? = none ↔ d.separators < 2 := by
  constructor
  · intro hnone
    by_contra hmany
    have hdepth := mt depth_lt_inheritingDepth_iff.1 hmany
    rw [parent?, if_neg hdepth, Option.map_eq_none_iff, beforeLast?_eq_none_iff] at hnone
    have hzero : d.separators = 0 := List.countP_eq_zero.2 (by simpa using hnone)
    omega
  · intro hfew
    exact if_pos (depth_lt_inheritingDepth_iff.2 hfew)

/-- Two separators are what it takes to have a parent. -/
theorem exists_parent?_iff : (∃ p, d.parent? = some p) ↔ 2 ≤ d.separators := by
  rw [← Option.ne_none_iff_exists', ne_eq, parent?_eq_none_iff, Nat.not_lt]

theorem Below.two_le_separators (h : d.Below p) : 2 ≤ d.separators := by
  obtain ⟨hp, sep, tail, hsep, htext⟩ := h
  rw [separators] at hp ⊢
  rw [htext, List.countP_append, List.countP_cons_of_pos hsep]
  omega

theorem Below.length_lt (h : d.Below p) : p.text.length < d.text.length := by
  obtain ⟨_, sep, tail, _, htext⟩ := h
  rw [← String.length_toList, ← String.length_toList, htext, List.length_append, List.length_cons]
  omega

theorem Continues.below (h : c.Continues d) : c.Below d := by
  have hseparators := h.separators_eq
  obtain ⟨hmany, sep, tail, hsep, _, htext⟩ := h
  exact ⟨by omega, sep, tail, hsep, htext⟩

theorem Below.trans (h : c.Below d) (h' : d.Below p) : c.Below p := by
  obtain ⟨_, sep, tail, _, htext⟩ := h
  obtain ⟨hp, sep', tail', hsep', htext'⟩ := h'
  refine ⟨hp, sep', tail' ++ sep :: tail, hsep', ?_⟩
  rw [htext, htext', List.append_assoc, List.cons_append]

/-- **What a domain stands below** is its parent and what the parent stands below: the tail that
the parent lacks has no separator to cut before. -/
theorem Continues.below_iff (h : c.Continues q) : c.Below p ↔ p = q ∨ q.Below p := by
  constructor
  · rintro ⟨hp, sep, tail, hsep, htext⟩
    obtain ⟨_, sep', tail', _, htail', htext'⟩ := h
    rw [htext] at htext'
    rcases List.append_eq_append_iff.1 htext' with ⟨between, hq, hrest⟩ | ⟨between, hp', hrest⟩
    · cases between with
      | nil =>
        rw [List.append_nil] at hq
        exact .inl (eq_of_toList hq.symm)
      | cons first between =>
        obtain ⟨rfl, _⟩ := List.cons.inj hrest
        exact .inr ⟨hp, sep, between, hsep, hq⟩
    · cases between with
      | nil =>
        rw [List.append_nil] at hp'
        exact .inl (eq_of_toList hp')
      | cons first between =>
        obtain ⟨_, htail⟩ := List.cons.inj hrest
        have hmem : sep ∈ tail' := by simp [htail]
        rw [htail' sep hmem] at hsep
        cases hsep
  · rintro (rfl | hbelow)
    · exact h.below
    · exact h.below.trans hbelow

/-! ## All steps -/

theorem ancestors_of_none (h : d.parent? = none) : d.ancestors = [] := by
  rw [ancestors]
  split
  · rfl
  · simp_all

theorem ancestors_of_some (h : d.parent? = some p) : d.ancestors = p :: p.ancestors := by
  rw [ancestors]
  split
  · simp_all
  · simp_all

/-- **The chain passes through what the domain stands below**, and through nothing else. -/
theorem mem_ancestors_iff : p ∈ d.ancestors ↔ d.Below p := by
  induction d using ancestors.induct with
  | case1 d hnone =>
    rw [ancestors_of_none hnone]
    refine iff_of_false List.not_mem_nil fun hbelow => ?_
    have hfew := parent?_eq_none_iff.1 hnone
    have hmany := hbelow.two_le_separators
    omega
  | case2 d q hq ih =>
    rw [ancestors_of_some hq, List.mem_cons, ih, (parent?_eq_some_iff.1 hq).below_iff]

/-- The longest text comes first. -/
theorem pairwise_ancestors (d : Domain) :
    d.ancestors.Pairwise fun p q => q.text.length < p.text.length := by
  induction d using ancestors.induct with
  | case1 d hnone =>
    rw [ancestors_of_none hnone]
    exact .nil
  | case2 d p hp ih =>
    rw [ancestors_of_some hp]
    exact .cons (fun q hq => (mem_ancestors_iff.1 hq).length_lt) ih

theorem length_ancestors (d : Domain) : d.ancestors.length = d.depth - 2 := by
  induction d using ancestors.induct with
  | case1 d hnone =>
    have hdepth := depth_lt_inheritingDepth_iff.2 (parent?_eq_none_iff.1 hnone)
    rw [inheritingDepth] at hdepth
    rw [ancestors_of_none hnone, List.length_nil]
    omega
  | case2 d p hp ih =>
    have hshorter := depth_parent? hp
    have hdepth := mt depth_lt_inheritingDepth_iff.1 (Nat.not_lt.2 (parent?_eq_some_iff.1 hp).1)
    rw [inheritingDepth] at hdepth
    rw [ancestors_of_some hp, List.length_cons, ih]
    omega

/-- The domain and its ancestors are what the steps lead to. -/
theorem stepUp?_eq (d : Domain) (steps : Nat) : d.stepUp? steps = (d :: d.ancestors)[steps]? := by
  induction steps generalizing d with
  | zero => rfl
  | succ steps ih =>
    rw [stepUp?, List.getElem?_cons_succ]
    cases hparent : d.parent? with
    | none =>
      rw [ancestors_of_none hparent]
      rfl
    | some p =>
      rw [ancestors_of_some hparent]
      exact ih p

theorem stepUp?_eq_none_iff {steps : Nat} : d.stepUp? steps = none ↔ d.depth - 2 < steps := by
  rw [stepUp?_eq, List.getElem?_eq_none_iff, List.length_cons, length_ancestors]
  omega

/-- Each step takes away one segment. -/
theorem depth_stepUp? {steps : Nat} (h : d.stepUp? steps = some p) : p.depth + steps = d.depth := by
  induction steps generalizing d with
  | zero =>
    cases h
    rfl
  | succ steps ih =>
    obtain ⟨q, hq, hp⟩ := Option.bind_eq_some_iff.1 h
    have hstep := depth_parent? hq
    have hrest := ih hp
    omega

theorem nodup_lineage (d : Domain) : d.lineage.Nodup := by
  rw [lineage, List.nodup_cons]
  refine ⟨fun hself => ?_, ?_⟩
  · rw [Option.mem_toList, parent?_eq_some_iff] at hself
    exact not_continues_self d hself
  · cases d.parent? <;> simp

/-- **A domain and its chain of parents.** Two separators or more make a parent, which is the text
before the last one, not empty and one segment shorter. No domain is its own parent. Going from
parent to parent takes `depth - 2` steps and ends in a domain of depth two or less. On the way stand
all texts that end before a separator and have one, and nothing else, the longest first. -/
theorem ancestors_decompose (d : Domain) :
    ((∃ p, d.parent? = some p) ↔ 2 ≤ d.separators) ∧
    (∀ p, d.parent? = some p →
      (∃ sep tail, isSeparator sep = true ∧ (∀ x ∈ tail, isSeparator x = false) ∧
        d.text.toList = p.text.toList ++ sep :: tail) ∧
      p.isEmpty = false ∧ p.depth + 1 = d.depth) ∧
    d.lineage.Nodup ∧
    (∀ steps, d.stepUp? steps = (d :: d.ancestors)[steps]? ∧
      (d.stepUp? steps = none ↔ d.depth - 2 < steps)) ∧
    (∃ top, d.stepUp? (d.depth - 2) = some top ∧ top.depth ≤ 2) ∧
    (∀ p, p ∈ d.ancestors ↔ 1 ≤ p.separators ∧ ∃ sep tail, isSeparator sep = true ∧
      d.text.toList = p.text.toList ++ sep :: tail) ∧
    d.ancestors.Pairwise fun p q => q.text.length < p.text.length := by
  refine ⟨exists_parent?_iff, fun p hp => ?_, d.nodup_lineage,
    fun steps => ⟨d.stepUp?_eq steps, stepUp?_eq_none_iff⟩, ?_, fun p => mem_ancestors_iff,
    d.pairwise_ancestors⟩
  · have hcontinues := parent?_eq_some_iff.1 hp
    exact ⟨hcontinues.2, isEmpty_eq_false hcontinues.below.1, depth_parent? hp⟩
  · have hsome : d.stepUp? (d.depth - 2) ≠ none := by
      rw [ne_eq, stepUp?_eq_none_iff]
      omega
    obtain ⟨top, htop⟩ := Option.ne_none_iff_exists'.1 hsome
    have hdepth := depth_stepUp? htop
    exact ⟨top, htop, by omega⟩

/-! ### Forbidden lore

Colons and points count alike, and the last segment is empty. Two steps lead up to the lore at
large. The skill itself has no separator, so nothing is taken over from there.
-/

def forbiddenLore : Domain := ⟨"skill:lore.forbidden:"⟩

theorem ancestors_decompose_lore :
    forbiddenLore.parent? = some ⟨"skill:lore.forbidden"⟩ ∧
    (Domain.mk "skill:lore.forbidden").depth + 1 = forbiddenLore.depth ∧
    (Domain.mk "skill:lore") ∈ forbiddenLore.ancestors ∧
    (Domain.mk "skill") ∉ forbiddenLore.ancestors ∧
    forbiddenLore.stepUp? 2 = some ⟨"skill:lore"⟩ ∧ forbiddenLore.stepUp? 3 = none := by
  have hparent : forbiddenLore.parent? = some ⟨"skill:lore.forbidden"⟩ := by decide +kernel
  obtain ⟨_, hshape, _, hsteps, _, hmem, _⟩ := ancestors_decompose forbiddenLore
  have hlore : Domain.mk "skill:lore" ∈ forbiddenLore.ancestors :=
    (hmem _).2 ⟨by decide +kernel, '.', "forbidden:".toList, rfl, by decide +kernel⟩
  have hskill : Domain.mk "skill" ∉ forbiddenLore.ancestors :=
    fun hbelow => absurd ((hmem _).1 hbelow).1 (by decide +kernel)
  exact ⟨hparent, (hshape _ hparent).2.2, hlore, hskill, by decide +kernel,
    (hsteps 3).2.2 (by decide +kernel)⟩

end Domain

end Percentile
