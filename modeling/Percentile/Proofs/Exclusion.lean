import Mathlib.Data.List.Induction
import Percentile.Modifier.Resolution
import Percentile.Proofs.Selection

/-!
# Exclusion keeps the first of the strongest

`Modifier.exclude` goes through a list once and remembers, for each group, how many members it has
seen and where its two winners stand. This file says what survives without any such state.

**The rule** (`Modifier.Prevails`). A modifier is looked at between those before it and those after
it. It survives if it has no group, if it is a zero alone in its group, if it is a bonus above every
earlier bonus of its group and not below any later one, or if it is a penalty with the same property
downwards.

**The scan** (`Contest.Describes`). After every prefix of the list, the contest of a group counts
the members of that prefix and names, in either direction, the *champion*: the first of the
strongest members. Both directions are one notion, `IsChampion`, for a measure of strength.

**Theorem (`resolve_applies_prevailing`).** The modifiers that a resolution applies are those at
the positions that count by the rule, among the modifiers that are switched on and whose predicate
passes. The others have no influence.
-/

namespace Percentile

namespace Modifier

/-! ## The rule -/

/-- Whether a modifier survives exclusion between those before it and those after it. -/
def Prevails (earlier : List Modifier) (m : Modifier) (later : List Modifier) : Prop :=
  m.exclusionGroup = none ∨
  (m.value = 0 ∧ ∀ x ∈ earlier ++ later, x.exclusionGroup ≠ m.exclusionGroup) ∨
  (0 < m.value ∧
    (∀ x ∈ earlier, x.exclusionGroup = m.exclusionGroup → 0 < x.value → x.value < m.value) ∧
    ∀ x ∈ later, x.exclusionGroup = m.exclusionGroup → 0 < x.value → x.value ≤ m.value) ∨
  (m.value < 0 ∧
    (∀ x ∈ earlier, x.exclusionGroup = m.exclusionGroup → x.value < 0 → m.value < x.value) ∧
    ∀ x ∈ later, x.exclusionGroup = m.exclusionGroup → x.value < 0 → m.value ≤ x.value)

instance (earlier : List Modifier) (m : Modifier) (later : List Modifier) :
    Decidable (Prevails earlier m later) := by
  unfold Prevails; infer_instance

/-- Whether a modifier is the first of the strongest members of its group, where `strength` measures
values in the direction of one sign. -/
def IsChampion (strength : Score → Int) (earlier : List Modifier) (m : Modifier)
    (later : List Modifier) : Prop :=
  0 < strength m.value ∧
    (∀ x ∈ earlier, x.exclusionGroup = m.exclusionGroup → strength x.value < strength m.value) ∧
    ∀ x ∈ later, x.exclusionGroup = m.exclusionGroup → strength x.value ≤ strength m.value

/-- The strength of a bonus. -/
def upward (v : Score) : Int := v.toInt

/-- The strength of a penalty. -/
def downward (v : Score) : Int := -v.toInt

theorem isChampion_upward_iff {earlier later : List Modifier} {m : Modifier} :
    IsChampion upward earlier m later ↔ 0 < m.value ∧
      (∀ x ∈ earlier, x.exclusionGroup = m.exclusionGroup → 0 < x.value → x.value < m.value) ∧
      ∀ x ∈ later, x.exclusionGroup = m.exclusionGroup → 0 < x.value → x.value ≤ m.value := by
  simp only [IsChampion, upward, Score.lt_iff, Score.le_iff, Score.toInt_zero]
  constructor
  · rintro ⟨hpos, hearlier, hlater⟩
    exact ⟨hpos, fun x hx hg _ => hearlier x hx hg, fun x hx hg _ => hlater x hx hg⟩
  · rintro ⟨hpos, hearlier, hlater⟩
    refine ⟨hpos, fun x hx hg => ?_, fun x hx hg => ?_⟩
    · have := hearlier x hx hg; omega
    · have := hlater x hx hg; omega

theorem isChampion_downward_iff {earlier later : List Modifier} {m : Modifier} :
    IsChampion downward earlier m later ↔ m.value < 0 ∧
      (∀ x ∈ earlier, x.exclusionGroup = m.exclusionGroup → x.value < 0 → m.value < x.value) ∧
      ∀ x ∈ later, x.exclusionGroup = m.exclusionGroup → x.value < 0 → m.value ≤ x.value := by
  simp only [IsChampion, downward, Score.lt_iff, Score.le_iff, Score.toInt_zero]
  constructor
  · rintro ⟨hpos, hearlier, hlater⟩
    refine ⟨by omega, fun x hx hg _ => ?_, fun x hx hg _ => ?_⟩
    · have := hearlier x hx hg; omega
    · have := hlater x hx hg; omega
  · rintro ⟨hneg, hearlier, hlater⟩
    refine ⟨by omega, fun x hx hg => ?_, fun x hx hg => ?_⟩
    · have := hearlier x hx hg; omega
    · have := hlater x hx hg; omega

/-- The rule in terms of champions. -/
theorem prevails_iff {earlier later : List Modifier} {m : Modifier} :
    Prevails earlier m later ↔ m.exclusionGroup = none ∨
      (m.value = 0 ∧ ∀ x ∈ earlier ++ later, x.exclusionGroup ≠ m.exclusionGroup) ∨
      IsChampion upward earlier m later ∨ IsChampion downward earlier m later := by
  rw [isChampion_upward_iff, isChampion_downward_iff, Prevails]

/-- A list has one champion in each direction: of two, neither can stand before the other. -/
theorem IsChampion.length_eq {strength : Score → Int} {e e' l l' : List Modifier}
    {m m' : Modifier} (h : IsChampion strength e m l) (h' : IsChampion strength e' m' l')
    (hg : m.exclusionGroup = m'.exclusionGroup) (hlist : e ++ m :: l = e' ++ m' :: l') :
    e.length = e'.length := by
  -- The list splits at `m` and at `m'`; where one part is the longer, it contains the other.
  rcases List.append_eq_append_iff.1 hlist with ⟨between, rfl, hrest⟩ | ⟨between, rfl, hrest⟩
  · cases between with
    | nil => simp
    | cons x between =>
      obtain ⟨rfl, rfl⟩ := List.cons.inj hrest
      have hlt := h'.2.1 m (by simp) hg
      have hle := h.2.2 m' (by simp) hg.symm
      omega
  · cases between with
    | nil => simp
    | cons x between =>
      obtain ⟨rfl, rfl⟩ := List.cons.inj hrest
      have hlt := h.2.1 m' (by simp) hg.symm
      have hle := h'.2.2 m (by simp) hg
      omega

end Modifier

/-! ## The scan -/

namespace Contest

open Modifier

/-- What a contest has to remember about a group in one direction: where the champion stands and its
value, or that no member has any strength. -/
def Crowns (strength : Score → Int) (group : String) (ms : List Modifier) : Option Winner → Prop
  | none => ∀ x ∈ ms, x.exclusionGroup = some group → strength x.value ≤ 0
  | some w => ∃ earlier m later, ms = earlier ++ m :: later ∧ m.exclusionGroup = some group ∧
      w = ⟨earlier.length, m.value⟩ ∧ IsChampion strength earlier m later

/-- Let a candidate meet the winner so far. -/
def crown (strength : Score → Int) (old : Option Winner) (candidate : Winner) : Option Winner :=
  if 0 < strength candidate.value ∧ old.all fun w => strength w.value < strength candidate.value
  then some candidate else old

theorem enter_bonus (c : Contest) (candidate : Winner) :
    (c.enter candidate).bonus = crown upward c.bonus candidate := rfl

theorem enter_penalty (c : Contest) (candidate : Winner) :
    (c.enter candidate).penalty = crown downward c.penalty candidate := by
  simp only [enter, crown, downward, Score.lt_iff, Score.toInt_zero, Int.neg_lt_neg_iff,
    Int.neg_pos]

variable {strength : Score → Int} {group : String} {ms : List Modifier} {m : Modifier}
  {o : Option Winner}

theorem Crowns.append_of_other (h : Crowns strength group ms o)
    (hm : m.exclusionGroup ≠ some group) : Crowns strength group (ms ++ [m]) o := by
  cases o with
  | none =>
    intro x hx hg
    rcases List.mem_append.1 hx with hx | hx
    · exact h x hx hg
    · exact absurd (List.mem_singleton.1 hx ▸ hg) hm
  | some w =>
    obtain ⟨earlier, m', later, rfl, hg', hw, hpos, hearlier, hlater⟩ := h
    refine ⟨earlier, m', later ++ [m], by simp, hg', hw, hpos, hearlier, fun x hx hg => ?_⟩
    rcases List.mem_append.1 hx with hx | hx
    · exact hlater x hx hg
    · exact absurd (List.mem_singleton.1 hx ▸ hg.trans hg') hm

/-- **One step of the scan.** A member of the group meets the winner so far. -/
theorem Crowns.append_of_member (h : Crowns strength group ms o)
    (hm : m.exclusionGroup = some group) :
    Crowns strength group (ms ++ [m]) (crown strength o ⟨ms.length, m.value⟩) := by
  unfold crown
  split
  · -- The new member is stronger than the champion, hence than every member before it.
    rename_i hwin
    refine ⟨ms, m, [], by simp, hm, rfl, hwin.1, fun x hx hg => ?_, by simp⟩
    have hxg := hg.trans hm
    cases o with
    | none => exact Int.lt_of_le_of_lt (h x hx hxg) hwin.1
    | some w =>
      obtain ⟨earlier, m', later, rfl, hg', rfl, hpos, hearlier, hlater⟩ := h
      have hbeaten : strength m'.value < strength m.value := by simpa using hwin.2
      rcases List.mem_append.1 hx with hx | hx
      · exact Int.lt_trans (hearlier x hx (hxg.trans hg'.symm)) hbeaten
      · rcases List.mem_cons.1 hx with rfl | hx
        · exact hbeaten
        · exact Int.lt_of_le_of_lt (hlater x hx (hxg.trans hg'.symm)) hbeaten
  · rename_i hlose
    cases o with
    | none =>
      intro x hx hg
      rcases List.mem_append.1 hx with hx | hx
      · exact h x hx hg
      · rw [List.mem_singleton.1 hx]
        simpa using hlose
    | some w =>
      obtain ⟨earlier, m', later, rfl, hg', rfl, hpos, hearlier, hlater⟩ := h
      have hle : strength m.value ≤ strength m'.value := by
        simp only [Option.all_some, decide_eq_true_eq, not_and] at hlose
        omega
      refine ⟨earlier, m', later ++ [m], by simp, hg', rfl, hpos, hearlier, fun x hx hg => ?_⟩
      rcases List.mem_append.1 hx with hx | hx
      · exact hlater x hx hg
      · rw [List.mem_singleton.1 hx]
        exact hle

/-- A contest that has seen the members of a group among some modifiers. -/
structure Tallies (c : Contest) (group : String) (ms : List Modifier) : Prop where
  members : c.members = ms.countP (·.exclusionGroup = some group)
  bonus : Crowns upward group ms c.bonus
  penalty : Crowns downward group ms c.penalty

/-- The contests of a table have seen some modifiers. -/
def Describes (contests : Table Contest) (ms : List Modifier) : Prop :=
  ∀ group, ((contests.find? group).getD {}).Tallies group ms

theorem describes_empty : Describes ∅ [] := fun group => by
  rw [Table.find?_empty]
  exact ⟨rfl, by simp [Crowns], by simp [Crowns]⟩

theorem Tallies.append_of_other {c : Contest} (h : c.Tallies group ms)
    (hm : m.exclusionGroup ≠ some group) : c.Tallies group (ms ++ [m]) where
  members := by simp [h.members, List.countP_append, hm]
  bonus := h.bonus.append_of_other hm
  penalty := h.penalty.append_of_other hm

theorem Tallies.enter {c : Contest} (h : c.Tallies group ms) (hm : m.exclusionGroup = some group) :
    (c.enter ⟨ms.length, m.value⟩).Tallies group (ms ++ [m]) where
  members := by
    show c.members + 1 = _
    simp [h.members, List.countP_append, hm]
  bonus := by
    rw [enter_bonus]
    exact h.bonus.append_of_member hm
  penalty := by
    rw [enter_penalty]
    exact h.penalty.append_of_member hm

/-- **The loop invariant.** Enrolling the next modifier keeps the contests right. -/
theorem Describes.enroll {contests : Table Contest} (h : Describes contests ms) (m : Modifier) :
    Describes (Contest.enroll contests (m, ms.length)) (ms ++ [m]) := by
  intro group
  unfold Contest.enroll
  cases hm : m.exclusionGroup with
  | none => exact (h group).append_of_other (by simp [hm])
  | some own =>
    show (((contests.put own _).find? group).getD {}).Tallies group (ms ++ [m])
    rw [Table.find?_put]
    by_cases hown : own = group
    · subst hown
      rw [if_pos rfl]
      exact (h own).enter hm
    · rw [if_neg hown]
      exact (h group).append_of_other (by simpa [hm] using hown)

theorem describes_ofModifiers (ms : List Modifier) : Describes (ofModifiers ms) ms := by
  induction ms using List.reverseRecOn with
  | nil => exact describes_empty
  | append_singleton ms m ih =>
    have hstep : ofModifiers (ms ++ [m]) = enroll (ofModifiers ms) (m, ms.length) := by
      simp [ofModifiers, List.zipIdx_append]
    rw [hstep]
    exact ih.enroll m

/-! ## Survival -/

/-- The winner that a contest remembers stands where the champion stands. -/
theorem Crowns.position_iff {earlier later : List Modifier}
    (h : Crowns strength group (earlier ++ m :: later) o) (hm : m.exclusionGroup = some group) :
    o.any (·.position == earlier.length) = true ↔ IsChampion strength earlier m later := by
  cases o with
  | none =>
    have hle := h m (by simp) hm
    refine ⟨by simp, fun hchampion => ?_⟩
    have := hchampion.1
    omega
  | some w =>
    obtain ⟨earlier', m', later', hlist, hg', rfl, hchampion'⟩ := h
    simp only [Option.any_some, beq_iff_eq]
    constructor
    · intro hlength
      obtain ⟨rfl, hrest⟩ := List.append_inj hlist hlength.symm
      obtain ⟨rfl, rfl⟩ := List.cons.inj hrest
      exact hchampion'
    · intro hchampion
      exact hchampion'.length_eq hchampion (hg'.trans hm.symm) hlist.symm

theorem Tallies.alone_iff {c : Contest} {earlier later : List Modifier}
    (h : c.Tallies group (earlier ++ m :: later)) (hm : m.exclusionGroup = some group) :
    c.members = 1 ↔ ∀ x ∈ earlier ++ later, x.exclusionGroup ≠ m.exclusionGroup := by
  have hcount : c.members = (earlier ++ later).countP (·.exclusionGroup = some group) + 1 := by
    simp only [h.members, List.countP_append, List.countP_cons, hm, decide_true, if_true]
    omega
  rw [hcount, hm, Nat.add_eq_right, List.countP_eq_zero]
  simp

/-- A contest keeps exactly the members that prevail. -/
theorem Tallies.keeps_iff {c : Contest} {earlier later : List Modifier}
    (h : c.Tallies group (earlier ++ m :: later)) (hm : m.exclusionGroup = some group) :
    c.keeps m earlier.length = true ↔ Prevails earlier m later := by
  have hup := h.bonus.position_iff hm
  have hdown := h.penalty.position_iff hm
  rw [prevails_iff, ← hup, ← hdown, ← h.alone_iff hm, keeps]
  by_cases hzero : m.value = 0
  · -- A zero is no champion, so the contest looks at the number of members alone.
    have hnot : ∀ strength : Score → Int, strength 0 = 0 → ¬ IsChampion strength earlier m later :=
      fun strength hstrength hchampion => by
        have := hchampion.1
        rw [hzero, hstrength] at this
        omega
    simp [hzero, hm, hup, hdown, hnot upward rfl, hnot downward rfl]
  · simp [hzero, hm]

end Contest

namespace Modifier

theorem survives_iff {contests : Table Contest} {earlier later : List Modifier} {m : Modifier}
    (h : Contest.Describes contests (earlier ++ m :: later)) :
    survives contests (m, earlier.length) = true ↔ Prevails earlier m later := by
  cases hm : m.exclusionGroup with
  | none => simp [survives, Prevails, hm]
  | some group =>
    rw [← (h group).keeps_iff hm]
    cases hfind : contests.find? group with
    | none =>
      -- A group that nobody entered cannot be that of `m`.
      have hcount := (h group).members
      simp [hfind, List.countP_append, hm] at hcount
    | some c => simp [survives, hm, hfind]

end Modifier

/-! ## Exclusion as a selection -/

namespace Modifier

/-- **Exclusion keeps what prevails.** -/
theorem exclude_eq_keepWhere (ms : List Modifier) :
    exclude ms = keepWhere (fun e m l => decide (Prevails e m l)) [] ms := by
  suffices h : ∀ front rest : List Modifier,
      Contest.Describes (Contest.ofModifiers ms) (front ++ rest) →
      ((rest.zipIdx front.length).filter (survives (Contest.ofModifiers ms))).map (·.1) =
        keepWhere (fun e m l => decide (Prevails e m l)) front rest from
    h [] ms (Contest.describes_ofModifiers ms)
  intro front rest
  induction rest generalizing front with
  | nil => exact fun _ => rfl
  | cons m rest ih =>
    intro h
    have htail := ih (front ++ [m]) (by simpa using h)
    have hm := survives_iff h
    rw [List.length_append, List.length_singleton] at htail
    by_cases hkeep : Prevails front m rest
    · simp [keepWhere, hkeep, hm.2 hkeep, htail]
    · have hdrop : survives (Contest.ofModifiers ms) (m, front.length) = false := by
        simpa [hkeep] using hm
      simp [keepWhere, hkeep, hdrop, htail]

end Modifier

/-! ## Resolution, position by position -/

namespace Resolution

open Modifier

/-- Whether the modifier at a position counts: it is switched on, its predicate passes, and it
prevails among the modifiers of which both is true. -/
def Counts (ms : List Modifier) (options : RollOptions) (i : Fin ms.length) : Prop :=
  ms[i].enabled = true ∧ ms[i].predicate.test options = true ∧
    Prevails ((ms.take i).filter (·.isActive options)) ms[i]
      ((ms.drop (i + 1)).filter (·.isActive options))

instance (ms : List Modifier) (options : RollOptions) : DecidablePred (Counts ms options) :=
  fun i => by unfold Counts; infer_instance

/-- **A resolution applies what counts.** The applied modifiers are those at the positions that
count, in their order, and the modifiers that are switched off or whose predicate fails could as
well be missing. -/
theorem resolve_applies_prevailing (ms : List Modifier) (options : RollOptions) (cap : Score) :
    (resolve ms options cap).all = ms ∧
    (resolve ms options cap).applied =
      ((List.finRange ms.length).filter (Counts ms options ·)).map
        (fun i : Fin ms.length => ms[i]) ∧
    (resolve (ms.filter (·.isActive options)) options cap).applied =
      (resolve ms options cap).applied := by
  refine ⟨rfl, ?_, ?_⟩
  · show exclude (ms.filter (·.isActive options)) = _
    rw [exclude_eq_keepWhere, ← List.filter_nil (p := (·.isActive options)), keepWhere_filter,
      keepWhere_eq_positions]
    congr 2
    funext i
    rw [Bool.eq_iff_iff, decide_eq_true_iff]
    simp only [Counts, Bool.and_eq_true, decide_eq_true_eq, List.nil_append]
    simp only [isActive, Bool.and_eq_true, and_assoc]
  · show exclude ((ms.filter _).filter _) = exclude (ms.filter _)
    rw [List.filter_filter]
    simp

end Resolution

end Percentile
