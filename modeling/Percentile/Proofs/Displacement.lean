import Percentile.Check.Pending
import Percentile.Proofs.Drift
import Percentile.Proofs.ExclusionOrder

/-!
# Adding a modifier

A modifier that is added to a check may drive others out of its exclusion group. So the total loses
some terms in the middle and gains one at its end. This file shows that it nevertheless moves in the
direction of the new modifier, and no further than its value.

**Displacement** (`exclude_append_singleton`). The new modifier drives out the zeros of its group
and the weaker survivor of its own sign. All other survivors stay, and it is added behind them if it
prevails.

**What is driven out** (`pull_displaced_le`) pulls no more in the direction of the new modifier than
that modifier does, and it pulls at all only if the new modifier takes its place.

**Theorem (`addModifier_moves_target`).** The total of the preview and its target move by something
between zero and the value of the added modifier, and not at all if it is switched off or its
predicate fails.
-/

namespace Percentile

namespace Modifier

variable {earlier later ms : List Modifier} {m x : Modifier} {strength strength' : Score → Int}
  {v : Score}

/-! ## Directions -/

/-- The two directions in which members of a group compete. -/
def IsDirection (strength : Score → Int) : Prop := strength = upward ∨ strength = downward

theorem IsDirection.ne_zero (h : IsDirection strength) (hpos : 0 < strength v) : v ≠ 0 := by
  rintro rfl
  rcases h with rfl | rfl <;> simp [upward, downward] at hpos

/-- A value is strong in one direction at most. -/
theorem IsDirection.unique (h : IsDirection strength) (h' : IsDirection strength')
    (hpos : 0 < strength v) (hpos' : 0 < strength' v) : strength = strength' := by
  have hopposite : downward v = -upward v := rfl
  rcases h with rfl | rfl <;> rcases h' with rfl | rfl
  · rfl
  · omega
  · omega
  · rfl

theorem prevails_iff_exists_champion :
    Prevails earlier m later ↔ m.exclusionGroup = none ∨
      (m.value = 0 ∧ ∀ y ∈ earlier ++ later, y.exclusionGroup ≠ m.exclusionGroup) ∨
      ∃ strength, IsDirection strength ∧ IsChampion strength earlier m later := by
  rw [prevails_iff]
  simp [IsDirection, or_and_right, exists_or]

theorem Prevails.isChampion (h : Prevails earlier x later) (hstrength : IsDirection strength)
    (hgroup : x.exclusionGroup ≠ none) (hpos : 0 < strength x.value) :
    IsChampion strength earlier x later := by
  rcases prevails_iff_exists_champion.1 h with h | ⟨hzero, _⟩ | ⟨strength', hstrength', h⟩
  · exact absurd h hgroup
  · exact absurd hzero (hstrength.ne_zero hpos)
  · rwa [hstrength.unique hstrength' hpos h.1]

/-! ## Displacement -/

/-- Whether the first modifier, if it is added behind the second, keeps it from surviving. -/
def Displaces (m x : Modifier) : Prop :=
  x.exclusionGroup ≠ none ∧ m.exclusionGroup = x.exclusionGroup ∧
    (x.value = 0 ∨ (0 < upward x.value ∧ upward x.value < upward m.value) ∨
      (0 < downward x.value ∧ downward x.value < downward m.value))

instance (m x : Modifier) : Decidable (Displaces m x) := by
  unfold Displaces; infer_instance

theorem displaces_zero_iff (hgroup : x.exclusionGroup ≠ none) (hzero : x.value = 0) :
    Displaces m x ↔ m.exclusionGroup = x.exclusionGroup := by
  simp [Displaces, hgroup, hzero]

theorem displaces_strong_iff (hgroup : x.exclusionGroup ≠ none) (hstrength : IsDirection strength)
    (hpos : 0 < strength x.value) :
    Displaces m x ↔
      m.exclusionGroup = x.exclusionGroup ∧ strength x.value < strength m.value := by
  have hzero := hstrength.ne_zero hpos
  have hopposite : downward x.value = -upward x.value := rfl
  rcases hstrength with rfl | rfl
  · have hdown : ¬ 0 < downward x.value := by omega
    simp [Displaces, hgroup, hzero, hpos, hdown]
  · have hup : ¬ 0 < upward x.value := by omega
    simp [Displaces, hgroup, hzero, hpos, hup]

theorem isChampion_append_singleton :
    IsChampion strength earlier x (later ++ [m]) ↔ IsChampion strength earlier x later ∧
      (m.exclusionGroup = x.exclusionGroup → strength m.value ≤ strength x.value) := by
  constructor
  · rintro ⟨hpos, hearlier, hlater⟩
    exact ⟨⟨hpos, hearlier, fun y hy => hlater y (by simp [hy])⟩, hlater m (by simp)⟩
  · rintro ⟨⟨hpos, hearlier, hlater⟩, hm⟩
    refine ⟨hpos, hearlier, fun y hy => ?_⟩
    rcases List.mem_append.1 hy with hy | hy
    · exact hlater y hy
    · rw [List.mem_singleton.1 hy]
      exact hm

/-- A modifier survives one more behind it if it survived without it and is not displaced. -/
theorem prevails_append_singleton :
    Prevails earlier x (later ++ [m]) ↔ Prevails earlier x later ∧ ¬ Displaces m x := by
  by_cases hgroup : x.exclusionGroup = none
  · simp [Prevails, Displaces, hgroup]
  rw [prevails_iff_exists_champion, prevails_iff_exists_champion, ← List.append_assoc]
  constructor
  · rintro (h | ⟨hzero, halone⟩ | ⟨strength, hstrength, h⟩)
    · exact absurd h hgroup
    · have hother : ∀ y ∈ earlier ++ later, y.exclusionGroup ≠ x.exclusionGroup :=
        fun y hy => halone y (List.mem_append_left _ hy)
      refine ⟨.inr (.inl ⟨hzero, hother⟩), fun hm => ?_⟩
      exact halone m (by simp) ((displaces_zero_iff hgroup hzero).1 hm)
    · obtain ⟨hchampion, hle⟩ := isChampion_append_singleton.1 h
      refine ⟨.inr (.inr ⟨strength, hstrength, hchampion⟩), fun hm => ?_⟩
      obtain ⟨hsame, hlt⟩ := (displaces_strong_iff hgroup hstrength hchampion.1).1 hm
      exact Int.not_lt.2 (hle hsame) hlt
  · rintro ⟨h | ⟨hzero, halone⟩ | ⟨strength, hstrength, h⟩, hnot⟩
    · exact absurd h hgroup
    · refine .inr (.inl ⟨hzero, fun y hy => ?_⟩)
      rcases List.mem_append.1 hy with hy | hy
      · exact halone y hy
      · rw [List.mem_singleton.1 hy]
        exact fun hsame => hnot ((displaces_zero_iff hgroup hzero).2 hsame)
    · refine .inr (.inr ⟨strength, hstrength, isChampion_append_singleton.2 ⟨h, fun hsame => ?_⟩⟩)
      refine Int.not_lt.1 fun hlt => hnot ?_
      exact (displaces_strong_iff hgroup hstrength h.1).2 ⟨hsame, hlt⟩

/-- **Exclusion with one more modifier.** It displaces some survivors, and joins the others behind
them if it prevails. -/
theorem exclude_append_singleton (ms : List Modifier) (m : Modifier) :
    exclude (ms ++ [m]) = (exclude ms).filter (fun x => !decide (Displaces m x)) ++
      if Prevails ms m [] then [m] else [] := by
  rw [exclude_eq_keepWhere, exclude_eq_keepWhere, keepWhere_append_singleton, ← keepWhere_and]
  congr 1
  · congr 1
    funext earlier x later
    rw [Bool.eq_iff_iff]
    simp [prevails_append_singleton]
  · simp

/-! ## What is driven out -/

/-- Of the survivors of a group at most one is strong in each direction. -/
theorem pairwise_strength_exclude (hstrength : IsDirection strength) (ms : List Modifier) :
    (exclude ms).Pairwise fun a b => a.exclusionGroup ≠ none →
      a.exclusionGroup = b.exclusionGroup → 0 < strength a.value → strength b.value ≤ 0 := by
  rw [exclude_eq_keepWhere]
  refine pairwise_keepWhere (fun earlier a between b later ha hb hgroup hsame hpos => ?_) _ _
  have hfirst := (of_decide_eq_true ha).isChampion hstrength hgroup hpos
  refine Int.not_lt.1 fun hpos' => ?_
  have hsecond := (of_decide_eq_true hb).isChampion hstrength (hsame ▸ hgroup) hpos'
  have hle := hfirst.2.2 b (by simp) hsame.symm
  have hlt := hsecond.2.1 a (by simp) hsame
  omega

/-- The survivors that a modifier displaces. -/
def displaced (m : Modifier) (ms : List Modifier) : List Modifier :=
  (exclude ms).filter fun x => decide (Displaces m x)

/-- A modifier that beats a champion of its group is the champion of the list that it ends. -/
theorem IsChampion.beaten (h : IsChampion strength earlier x later)
    (hm : m.exclusionGroup = x.exclusionGroup) (hlt : strength x.value < strength m.value) :
    IsChampion strength (earlier ++ x :: later) m [] := by
  refine ⟨Int.lt_trans h.1 hlt, fun y hy hg => ?_, by simp⟩
  have hyx := hg.trans hm
  rcases List.mem_append.1 hy with hy | hy
  · exact Int.lt_trans (h.2.1 y hy hyx) hlt
  · rcases List.mem_cons.1 hy with rfl | hy
    · exact hlt
    · exact Int.lt_of_le_of_lt (h.2.2 y hy hyx) hlt

/-- A displaced survivor is weaker than the modifier that displaces it, and has no strength at all
if that modifier does not prevail. -/
theorem strength_displaced_le (hstrength : IsDirection strength) (hx : x ∈ displaced m ms) :
    strength x.value ≤ if Prevails ms m [] then max (strength m.value) 0 else 0 := by
  obtain ⟨hmem, hdisplaces⟩ := List.mem_filter.1 hx
  have hdisplaces := of_decide_eq_true hdisplaces
  by_cases hpos : 0 < strength x.value
  · obtain ⟨earlier, later, rfl, hprevails⟩ := mem_exclude.1 hmem
    have hgroup := hdisplaces.1
    obtain ⟨hsame, hlt⟩ := (displaces_strong_iff hgroup hstrength hpos).1 hdisplaces
    have hm : IsChampion strength (earlier ++ x :: later) m [] :=
      (hprevails.isChampion hstrength hgroup hpos).beaten hsame hlt
    have hwins : Prevails (earlier ++ x :: later) m [] :=
      prevails_iff_exists_champion.2 (.inr (.inr ⟨strength, hstrength, hm⟩))
    rw [if_pos hwins]
    omega
  · split <;> omega

/-- **What is driven out is no stronger than what drives it out**, taken together. -/
theorem pull_displaced_le (hstrength : IsDirection strength) (m : Modifier) (ms : List Modifier) :
    Score.pull strength ((displaced m ms).map (·.value)) ≤
      if Prevails ms m [] then max (strength m.value) 0 else 0 := by
  refine Score.pull_le (by split <;> omega) (fun v hv => ?_) ?_
  · obtain ⟨x, hx, rfl⟩ := List.mem_map.1 hv
    exact strength_displaced_le hstrength hx
  · -- All displaced survivors are in the group of `m`, so at most one of them is strong.
    rw [List.pairwise_map]
    have hone : (displaced m ms).Pairwise _ := (pairwise_strength_exclude hstrength ms).filter _
    refine hone.imp_of_mem fun {a b} ha hb h => ?_
    have hda := of_decide_eq_true (List.mem_filter.1 ha).2
    have hdb := of_decide_eq_true (List.mem_filter.1 hb).2
    exact h hda.1 (hda.2.1.symm.trans hdb.2.1)

/-! ## The sum of the survivors -/

/-- **The sum moves towards the new modifier**, by no more than its value. -/
theorem drift_sum_exclude (ms : List Modifier) (m : Modifier) :
    Score.Drift (min m.value.toInt 0) (max m.value.toInt 0)
      (.sum ((exclude ms).map (·.value))) (.sum ((exclude (ms ++ [m])).map (·.value))) := by
  have hup := pull_displaced_le (.inl rfl : IsDirection upward) m ms
  have hdown := pull_displaced_le (.inr rfl : IsDirection downward) m ms
  -- First the displaced survivors leave the sum, then `m` joins it.
  have hleave : Score.Drift (0 - Score.pull downward ((displaced m ms).map (·.value)))
      (0 + Score.pull upward ((displaced m ms).map (·.value)))
      (.sum (((exclude ms).filter fun x => !decide (Displaces m x)).map (·.value)))
      (.sum ((exclude ms).map (·.value))) := by
    have h := Score.drift_foldl_filter (·.value) (fun x => !decide (Displaces m x)) (exclude ms)
      (Int.le_refl 0) (Int.le_refl 0) (⟨by simp, by simp⟩ : Score.Drift 0 0 0 0)
    simp only [Bool.not_not] at h
    exact h
  rw [exclude_append_singleton]
  generalize (exclude ms).filter (fun x => !decide (Displaces m x)) = stay at hleave ⊢
  obtain ⟨hlower, hupper⟩ := hleave
  by_cases hwins : Prevails ms m []
  · have hjoin : Score.sum ((stay ++ [m]).map (·.value)) =
        Score.sum (stay.map (·.value)) + m.value := by
      simp [Score.sum]
    rw [if_pos hwins] at hup hdown ⊢
    rw [show upward m.value = m.value.toInt from rfl] at hup
    rw [show downward m.value = -m.value.toInt from rfl] at hdown
    rw [hjoin]
    exact Score.drift_exchange ⟨by omega, by omega⟩
  · rw [if_neg hwins] at hup hdown ⊢
    rw [List.append_nil]
    exact ⟨by omega, by omega⟩

end Modifier

/-! ## The target -/

namespace Resolution

open Modifier

/-- A modifier that is switched off or whose predicate fails does not count. -/
theorem total_append_of_inactive (ms : List Modifier) {m : Modifier} {options : RollOptions}
    (h : m.isActive options = false) (cap : Score) :
    (resolve (ms ++ [m]) options cap).total = (resolve ms options cap).total := by
  simp [resolve, List.filter_append, h]

theorem drift_total_append (ms : List Modifier) {m : Modifier} {options : RollOptions}
    (h : m.isActive options = true) (cap : Score) :
    Score.Drift (min m.value.toInt 0) (max m.value.toInt 0)
      (resolve ms options cap).total (resolve (ms ++ [m]) options cap).total := by
  have hactive : (ms ++ [m]).filter (·.isActive options) =
      ms.filter (·.isActive options) ++ [m] := by
    simp [List.filter_append, h]
  have hsum := drift_sum_exclude (ms.filter (·.isActive options)) m
  rw [← hactive] at hsum
  exact (Score.gentle_within cap).drift (by omega) (by omega) hsum

end Resolution

namespace PendingCheck

/-- The target that a total leads to. -/
theorem gentle_target (base : Score) : Score.Gentle fun total => max (base + total) 1 :=
  (Score.gentle_max 1).comp (Score.gentle_add_left base)

/-- **Adding a modifier moves the target in its own direction**, by no more than its value. The same
holds of the total. A modifier that is switched off or whose predicate fails moves neither. -/
theorem addModifier_moves_target (p : PendingCheck) (m : Modifier) :
    let total := p.preview.total.toInt
    let total' := (p.addModifier m).preview.total.toInt
    let target := p.previewTarget.toInt
    let target' := (p.addModifier m).previewTarget.toInt
    (m.enabled = false ∨ m.predicate.test p.rollOptions = false →
      total' = total ∧ target' = target) ∧
    (m.enabled = true ∧ m.predicate.test p.rollOptions = true → 0 ≤ m.value.toInt →
      (0 ≤ total' - total ∧ total' - total ≤ m.value.toInt) ∧
      (0 ≤ target' - target ∧ target' - target ≤ m.value.toInt)) ∧
    (m.enabled = true ∧ m.predicate.test p.rollOptions = true → m.value.toInt ≤ 0 →
      (m.value.toInt ≤ total' - total ∧ total' - total ≤ 0) ∧
      (m.value.toInt ≤ target' - target ∧ target' - target ≤ 0)) := by
  intro total total' target target'
  have hmoves : m.isActive p.rollOptions = true →
      (min m.value.toInt 0 ≤ total' - total ∧ total' - total ≤ max m.value.toInt 0) ∧
      (min m.value.toInt 0 ≤ target' - target ∧ target' - target ≤ max m.value.toInt 0) := by
    intro hactive
    have htotal := Resolution.drift_total_append p.modifiers hactive p.cap
    exact ⟨htotal, (gentle_target p.baseTarget).drift (by omega) (by omega) htotal⟩
  refine ⟨fun hoff => ?_, fun hactive hpos => ?_, fun hactive hneg => ?_⟩
  · have hinactive : m.isActive p.rollOptions = false := by
      simpa [Modifier.isActive, or_iff_not_imp_left] using hoff
    have hsame : (p.addModifier m).preview.total = p.preview.total :=
      Resolution.total_append_of_inactive p.modifiers hinactive p.cap
    have htarget : (p.addModifier m).previewTarget = p.previewTarget :=
      congrArg (fun t => max (p.baseTarget + t) 1) hsame
    exact ⟨congrArg Score.toInt hsame, congrArg Score.toInt htarget⟩
  · obtain ⟨htotal, htarget⟩ := hmoves (by simpa [Modifier.isActive] using hactive)
    omega
  · obtain ⟨htotal, htarget⟩ := hmoves (by simpa [Modifier.isActive] using hactive)
    omega

/-! ### Aiming better

A shooter who has aimed for half a turn aims for a full one. The sum saturates after its second
term, and the term that leaves it is the first. Fog costs more than the aim gives, and a laser
sight that is switched off gives nothing.
-/

def halfAim : Modifier where
  label := "Half Aim"
  value := 10
  exclusionGroup := some "aim"

def fullAim : Modifier := { halfAim with label := "Full Aim", value := 20 }

def fog : Modifier where
  label := "Fog"
  value := .clamp (-30)

def laserSight : Modifier where
  label := "Laser Sight"
  value := 10
  enabled := false

def shooting : PendingCheck where
  actor := default
  label := "Shoot"
  domain := ⟨"characteristic:bs"⟩
  baseTarget := .clamp (-100)
  modifiers := [halfAim, { label := "Blessing", value := .greatest }, fog]
  rollOptions := ∅
  adjustments := []
  cap := .greatest

/-- How far a modifier moves the target of the shot. -/
def gain (m : Modifier) : Int :=
  (shooting.addModifier m).previewTarget.toInt - shooting.previewTarget.toInt

theorem addModifier_moves_target_aim :
    (0 ≤ gain fullAim ∧ gain fullAim ≤ 20) ∧ (-30 ≤ gain fog ∧ gain fog ≤ 0) ∧
      (shooting.addModifier laserSight).previewTarget.toInt = shooting.previewTarget.toInt ∧
      gain fullAim = 20 ∧ gain fog = -30 := by
  have hfullAim := (addModifier_moves_target shooting fullAim).2.1 (by decide) (by decide)
  have hfog := (addModifier_moves_target shooting fog).2.2 (by decide) (by decide)
  have hlaserSight := (addModifier_moves_target shooting laserSight).1 (by decide)
  exact ⟨hfullAim.2, hfog.2, hlaserSight.2, by decide +kernel, by decide +kernel⟩

end PendingCheck

end Percentile
