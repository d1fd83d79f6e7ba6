import Percentile.Domain

/-!
# Which domains feed a domain

The parent of a domain is found by counting its separators and looking for the last one. This file
says the same of the text as a whole: a domain *continues* another one if it has two separators or
more and consists of the other one, a separator, and a tail without one.

**Theorem (`parent?_eq_some_iff`).** The parent of a domain is the one that it continues. So what
applies in a domain is what is registered for the domains that *feed* it, itself and the one that it
continues (`mem_lineage_iff`), and these are never the same (`not_continues_self`).
-/

namespace Percentile

namespace Domain

/-- The domain has two separators or more, and it is `d` followed by one of them and a tail without
any. The tail may be empty. -/
def Continues (c d : Domain) : Prop :=
  2 ≤ c.separators ∧
    ∃ sep tail, isSeparator sep = true ∧ (∀ x ∈ tail, isSeparator x = false) ∧
      c.text.toList = d.text.toList ++ sep :: tail

/-- What is registered for `d` applies in `c`. -/
def Feeds (d c : Domain) : Prop := d = c ∨ c.Continues d

variable {c d : Domain}

theorem depth_lt_inheritingDepth_iff : c.depth < inheritingDepth ↔ c.separators < 2 := by
  unfold depth inheritingDepth
  by_cases hempty : c.isEmpty = true
  · have htext : c.text = "" := by simpa [isEmpty] using hempty
    have hnone : c.separators = 0 := by
      unfold separators
      rw [htext]
      rfl
    rw [if_pos hempty, hnone]
    decide
  · rw [if_neg hempty]
    omega

/-- Before the last separator stands what stands before a separator with no other one behind it. -/
theorem beforeLast?_append {front tail : List Char} {sep : Char} (hsep : isSeparator sep = true)
    (htail : ∀ x ∈ tail, isSeparator x = false) :
    beforeLast? (front ++ sep :: tail) = some front := by
  have hreverse : (front ++ sep :: tail).reverse = tail.reverse ++ sep :: front.reverse := by simp
  have hskip : ∀ x ∈ tail.reverse, (!isSeparator x) = true := by
    intro x hx
    rw [htail x (List.mem_reverse.1 hx)]
    rfl
  rw [beforeLast?, hreverse, List.dropWhile_append_of_pos hskip]
  simp [hsep]

/-- **The parent of a domain is the domain that it continues.** -/
theorem parent?_eq_some_iff : c.parent? = some d ↔ c.Continues d := by
  unfold parent?
  by_cases hdepth : c.depth < inheritingDepth
  · have hfew := depth_lt_inheritingDepth_iff.1 hdepth
    rw [if_pos hdepth]
    constructor
    · intro h
      exact absurd h (by simp)
    · intro h
      exact absurd h.1 (by omega)
  · have hmany := mt depth_lt_inheritingDepth_iff.2 hdepth
    rw [if_neg hdepth]
    constructor
    · intro h
      obtain ⟨front, hfront, rfl⟩ := Option.map_eq_some_iff.1 h
      obtain ⟨sep, tail, hsep, htail, htext⟩ := beforeLast?_eq_some hfront
      exact ⟨by omega, sep, tail, hsep, htail, by rw [htext, String.toList_ofList]⟩
    · rintro ⟨_, sep, tail, hsep, htail, htext⟩
      rw [htext, beforeLast?_append hsep htail]
      simp

theorem mem_lineage_iff : d ∈ c.lineage ↔ d.Feeds c := by
  unfold lineage Feeds
  rw [List.mem_cons, Option.mem_toList, parent?_eq_some_iff]

theorem not_continues_self (c : Domain) : ¬ c.Continues c := by
  rintro ⟨_, sep, tail, _, _, htext⟩
  have hlength := congrArg List.length htext
  rw [List.length_append, List.length_cons] at hlength
  omega

end Domain

end Percentile
