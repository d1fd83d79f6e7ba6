import Mathlib.Data.List.Perm.Lattice
import Percentile.Proofs.Exclusion

/-!
# Exclusion and the order of the list

Which of several equal modifiers survives depends on their order. What survives does not, as long
as one looks only at what a modifier brings into a contest: its group and its value, its *stake*.

**Grouped stakes** (`mem_stakes_exclude`). A stake in a group survives if it is there and if either
it is the zero of the only member, or no member is stronger in its direction. Neither part mentions
the order, and no such stake survives twice.

**Theorem (`perm_exclude`).** After exclusion, the stakes of two rearrangements of a list are
rearrangements of each other.
-/

namespace Percentile

namespace Modifier

/-- What a modifier brings into a contest. -/
def stake (m : Modifier) : Option String × Score := (m.exclusionGroup, m.value)

theorem exclude_sublist (ms : List Modifier) : (exclude ms).Sublist ms := by
  rw [exclude_eq_keepWhere]
  exact keepWhere_sublist _ _ _

theorem mem_exclude {ms : List Modifier} {m : Modifier} :
    m ∈ exclude ms ↔ ∃ earlier later, ms = earlier ++ m :: later ∧ Prevails earlier m later := by
  simp only [exclude_eq_keepWhere, mem_keepWhere, List.nil_append, decide_eq_true_eq]

/-! ## Survivors of one group -/

/-- A champion differs in value from the members of its group before it. -/
theorem IsChampion.value_ne {strength : Score → Int} {e l : List Modifier} {a b : Modifier}
    (h : IsChampion strength e b l) (ha : a ∈ e) (hg : a.exclusionGroup = b.exclusionGroup) :
    a.value ≠ b.value := by
  intro hv
  have hlt := h.2.1 a ha hg
  rw [hv] at hlt
  exact Int.lt_irrefl _ hlt

/-- Two survivors of one group have different values. -/
theorem pairwise_stake_exclude (ms : List Modifier) :
    (exclude ms).Pairwise fun a b => a.exclusionGroup ≠ none → a.stake ≠ b.stake := by
  rw [exclude_eq_keepWhere]
  refine pairwise_keepWhere (fun earlier a between b later _ hb hgroup hstake => ?_) _ _
  obtain ⟨hg, hv⟩ := Prod.mk.inj hstake
  -- The later of the two would have to beat the earlier one, which has the same value.
  rcases prevails_iff.1 (of_decide_eq_true hb) with hb | ⟨_, halone⟩ | hup | hdown
  · exact hgroup (hg.trans hb)
  · exact halone a (by simp) hg
  · exact hup.value_ne (by simp) hg hv
  · exact hdown.value_ne (by simp) hg hv

variable {ms ms' : List Modifier} {group : String} {v : Score}

/-- A stake has a champion exactly if it is there and no member of the group is stronger. -/
theorem exists_champion_iff {strength : Score → Int} (hinj : Function.Injective strength) :
    (∃ earlier m later, ms = earlier ++ m :: later ∧ m.stake = (some group, v) ∧
      IsChampion strength earlier m later) ↔
    (some group, v) ∈ ms.map stake ∧ 0 < strength v ∧
      ∀ x ∈ ms, x.exclusionGroup = some group → strength x.value ≤ strength v := by
  constructor
  · rintro ⟨earlier, m, later, rfl, hstake, hpos, hearlier, hlater⟩
    obtain ⟨hg, rfl⟩ := Prod.mk.inj hstake
    refine ⟨List.mem_map.2 ⟨m, by simp, hstake⟩, hpos, fun x hx hxg => ?_⟩
    rcases List.mem_append.1 hx with hx | hx
    · exact Int.le_of_lt (hearlier x hx (hxg.trans hg.symm))
    · rcases List.mem_cons.1 hx with rfl | hx
      · exact Int.le_refl _
      · exact hlater x hx (hxg.trans hg.symm)
  · rintro ⟨hmem, hpos, hmax⟩
    -- The first member with this stake is the champion.
    obtain ⟨front, back, hsplit, hfirst⟩ := List.eq_append_cons_of_mem hmem
    obtain ⟨earlier, rest, rfl, rfl, hrest⟩ := List.map_eq_append_iff.1 hsplit
    obtain ⟨m, later, rfl, hstake, rfl⟩ := List.map_eq_cons_iff.1 hrest
    obtain ⟨hg, rfl⟩ := Prod.mk.inj hstake
    refine ⟨earlier, m, later, rfl, hstake, hpos, fun x hx hxg => ?_, fun x hx hxg => ?_⟩
    · have hle := hmax x (by simp [hx]) (hxg.trans hg)
      have hne : x.value ≠ m.value := fun hv =>
        hfirst (List.mem_map.2 ⟨x, hx, Prod.ext (hxg.trans hg) hv⟩)
      exact lt_of_le_of_ne hle (hinj.ne hne)
    · exact hmax x (by simp [hx]) (hxg.trans hg)

/-- A zero stands alone exactly if it is there and its group has one member. -/
theorem exists_alone_iff :
    (∃ earlier m later, ms = earlier ++ m :: later ∧ m.stake = (some group, v) ∧
      m.value = 0 ∧ ∀ x ∈ earlier ++ later, x.exclusionGroup ≠ m.exclusionGroup) ↔
    (some group, v) ∈ ms.map stake ∧ v = 0 ∧ ms.countP (·.exclusionGroup = some group) = 1 := by
  have hcount : ∀ {earlier later : List Modifier} {m : Modifier}, m.exclusionGroup = some group →
      ((earlier ++ m :: later).countP (·.exclusionGroup = some group) = 1 ↔
        ∀ x ∈ earlier ++ later, x.exclusionGroup ≠ m.exclusionGroup) := by
    intro earlier later m hg
    simp only [hg, List.countP_append, List.countP_cons, decide_true, if_true, ← Nat.add_assoc,
      Nat.add_eq_right]
    rw [← List.countP_append, List.countP_eq_zero]
    simp
  constructor
  · rintro ⟨earlier, m, later, rfl, hstake, hzero, halone⟩
    obtain ⟨hg, rfl⟩ := Prod.mk.inj hstake
    exact ⟨List.mem_map.2 ⟨m, by simp, hstake⟩, hzero, (hcount hg).2 halone⟩
  · rintro ⟨hmem, rfl, hone⟩
    obtain ⟨m, hm, hstake⟩ := List.mem_map.1 hmem
    obtain ⟨hg, hv⟩ := Prod.mk.inj hstake
    obtain ⟨earlier, later, rfl⟩ := List.append_of_mem hm
    exact ⟨earlier, m, later, rfl, hstake, hv, (hcount hg).1 hone⟩

theorem upward_injective : Function.Injective upward := fun _ _ h => Score.ext h

theorem downward_injective : Function.Injective downward :=
  fun _ _ h => Score.ext (Int.neg_inj.1 h)

/-- **The stakes that survive in a group**, without reference to an order. -/
theorem mem_stakes_exclude :
    (some group, v) ∈ (exclude ms).map stake ↔
      (some group, v) ∈ ms.map stake ∧
        ((v = 0 ∧ ms.countP (·.exclusionGroup = some group) = 1) ∨
          (0 < upward v ∧ ∀ x ∈ ms, x.exclusionGroup = some group → upward x.value ≤ upward v) ∨
          (0 < downward v ∧
            ∀ x ∈ ms, x.exclusionGroup = some group → downward x.value ≤ downward v)) := by
  rw [and_or_left, and_or_left, ← exists_alone_iff, ← exists_champion_iff upward_injective,
    ← exists_champion_iff downward_injective, List.mem_map]
  simp only [mem_exclude, prevails_iff]
  constructor
  · rintro ⟨m, ⟨earlier, later, hlist, hnone | halone | hup | hdown⟩, hstake⟩
    · rw [stake, hnone] at hstake
      cases hstake
    · exact .inl ⟨earlier, m, later, hlist, hstake, halone⟩
    · exact .inr (.inl ⟨earlier, m, later, hlist, hstake, hup⟩)
    · exact .inr (.inr ⟨earlier, m, later, hlist, hstake, hdown⟩)
  · rintro (⟨earlier, m, later, hlist, hstake, halone⟩ | ⟨earlier, m, later, hlist, hstake, hup⟩ |
      ⟨earlier, m, later, hlist, hstake, hdown⟩)
    · exact ⟨m, ⟨earlier, later, hlist, .inr (.inl halone)⟩, hstake⟩
    · exact ⟨m, ⟨earlier, later, hlist, .inr (.inr (.inl hup))⟩, hstake⟩
    · exact ⟨m, ⟨earlier, later, hlist, .inr (.inr (.inr hdown))⟩, hstake⟩

/-! ## Rearranging the list -/

theorem mem_stakes_exclude_of_perm (h : ms.Perm ms') :
    (some group, v) ∈ (exclude ms).map stake ↔ (some group, v) ∈ (exclude ms').map stake := by
  simp only [mem_stakes_exclude, (h.map stake).mem_iff, h.mem_iff, h.countP_eq]

/-- No stake in a group survives twice. -/
theorem nodup_grouped (ms : List Modifier) :
    (((exclude ms).filter (·.exclusionGroup ≠ none)).map stake).Nodup := by
  rw [List.Nodup, List.pairwise_map, List.pairwise_filter]
  exact (pairwise_stake_exclude ms).imp fun h hgroup _ => h (by simpa using hgroup)

theorem perm_grouped (h : ms.Perm ms') :
    (((exclude ms).filter (·.exclusionGroup ≠ none)).map stake).Perm
      (((exclude ms').filter (·.exclusionGroup ≠ none)).map stake) := by
  refine (List.perm_ext_iff_of_nodup (nodup_grouped ms) (nodup_grouped ms')).2 fun (g, v) => ?_
  have hgrouped : ∀ l : List Modifier,
      (g, v) ∈ (l.filter (·.exclusionGroup ≠ none)).map stake ↔
        g ≠ none ∧ (g, v) ∈ l.map stake := by
    intro l
    simp only [List.mem_map, List.mem_filter, stake, Prod.mk.injEq, decide_eq_true_eq]
    constructor
    · rintro ⟨m, ⟨hm, hg⟩, rfl, rfl⟩
      exact ⟨hg, m, hm, rfl, rfl⟩
    · rintro ⟨hg, m, hm, rfl, rfl⟩
      exact ⟨m, ⟨hm, hg⟩, rfl, rfl⟩
  rw [hgrouped, hgrouped]
  cases g with
  | none => simp
  | some group => rw [mem_stakes_exclude_of_perm h]

theorem ungrouped_exclude (ms : List Modifier) :
    (exclude ms).filter (·.exclusionGroup = none) = ms.filter (·.exclusionGroup = none) := by
  rw [exclude_eq_keepWhere]
  refine filter_keepWhere (fun _ m _ hnone => ?_) _ _
  exact decide_eq_true (.inl (of_decide_eq_true hnone))

/-- **The stakes that survive do not depend on the order.** -/
theorem perm_exclude (h : ms.Perm ms') :
    ((exclude ms).map stake).Perm ((exclude ms').map stake) := by
  have hsplit : ∀ l : List Modifier, ((exclude l).map stake).Perm
      ((l.filter (·.exclusionGroup = none)).map stake ++
        ((exclude l).filter (·.exclusionGroup ≠ none)).map stake) := by
    intro l
    rw [← ungrouped_exclude l, ← List.map_append]
    refine (List.Perm.map stake ?_).symm
    simpa using List.filter_append_perm (·.exclusionGroup = none) (exclude l)
  refine (hsplit ms).trans (.trans ?_ (hsplit ms').symm)
  exact ((h.filter _).map stake).append (perm_grouped h)

end Modifier

end Percentile
