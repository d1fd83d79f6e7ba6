import Mathlib.Data.Fintype.Basic
import Percentile.Proofs.Displacement

/-!
# Deleting what loses

A modifier that is switched off, whose predicate fails or that is excluded might as well be missing,
it seems. That is not quite so: a zero survives only while it is alone in its group, so a zero that
lost can survive once its rivals are deleted. This file shows that nothing else can happen.

**Winners by place** (`Modifier.Names`). Deletion moves the members that stay, so a winner is known
by its place in the list as it was, and the modifiers are the values there.

**No new winner** (`Names.wins_of_prevails`). A member with a value other than zero that prevails
among those kept prevailed before. For its group had a champion, which is among those kept, and of
two champions one would stand before the other.

**Theorem (`resolve_without_losers`).** Deleting any losers leaves the total and the applied
modifiers other than zeros. Deleting all losers leaves all applied modifiers, which are then the
whole list, so to resolve them again changes nothing.
-/

namespace Percentile

namespace Score

/-- Zeros do not show in a sum. -/
theorem sum_filter_ne_zero (scores : List Score) : sum (scores.filter (· ≠ 0)) = sum scores := by
  have hzero : ∀ a : Score, a + 0 = a := by
    intro a
    have hleast := a.least_le
    have hgreatest := a.le_greatest
    ext
    rw [toInt_add, toInt_zero]
    omega
  rw [sum, sum, List.foldl_filter]
  congr 1
  funext a b
  by_cases hb : b = 0
  · simp [hb, hzero]
  · simp [hb]

end Score

/-! ## Fewer rivals -/

namespace Modifier

variable {strength : Score → Int} {earlier later earlier' later' ms : List Modifier} {m : Modifier}

theorem IsChampion.mono (h : IsChampion strength earlier m later)
    (hearlier : earlier'.Sublist earlier) (hlater : later'.Sublist later) :
    IsChampion strength earlier' m later' :=
  ⟨h.1, fun x hx => h.2.1 x (hearlier.subset hx), fun x hx => h.2.2 x (hlater.subset hx)⟩

/-- What prevails prevails also among fewer. -/
theorem Prevails.mono (h : Prevails earlier m later) (hearlier : earlier'.Sublist earlier)
    (hlater : later'.Sublist later) : Prevails earlier' m later' := by
  rw [prevails_iff_exists_champion] at h ⊢
  rcases h with hnone | ⟨hzero, halone⟩ | ⟨strength, hstrength, hchampion⟩
  · exact .inl hnone
  · exact .inr (.inl ⟨hzero, fun x hx => halone x ((hearlier.append hlater).subset hx)⟩)
  · exact .inr (.inr ⟨strength, hstrength, hchampion.mono hearlier hlater⟩)

/-- A group with a member of any strength has a champion. -/
theorem exists_champion (hstrength : IsDirection strength) (hm : m ∈ ms)
    (hgroup : m.exclusionGroup ≠ none) (hpos : 0 < strength m.value) :
    ∃ earlier champion later, ms = earlier ++ champion :: later ∧
      champion.exclusionGroup = m.exclusionGroup ∧
      IsChampion strength earlier champion later := by
  obtain ⟨group, hgroup⟩ := Option.ne_none_iff_exists'.1 hgroup
  -- The contest of the group has crowned somebody.
  have hcrowned : ∃ o, Contest.Crowns strength group ms o := by
    have htallies := Contest.describes_ofModifiers ms group
    rcases hstrength with rfl | rfl
    · exact ⟨_, htallies.bonus⟩
    · exact ⟨_, htallies.penalty⟩
  obtain ⟨_ | w, hcrowns⟩ := hcrowned
  · exact absurd hpos (Int.not_lt.2 (hcrowns m hm hgroup))
  · obtain ⟨earlier, champion, later, hlist, hsame, _, hchampion⟩ := hcrowns
    exact ⟨earlier, champion, later, hlist, hsame.trans hgroup.symm, hchampion⟩

/-! ## Winners by place -/

section Places

variable {α : Type} {f : α → Modifier} {wins keep : α → Bool} {as before after : List α} {a : α}

/-- The places that win are those whose modifiers prevail in the list. -/
def Names (f : α → Modifier) (wins : α → Bool) (as : List α) : Prop :=
  ∀ before a after, as = before ++ a :: after →
    (wins a = true ↔ Prevails (before.map f) (f a) (after.map f))

/-- Exclusion, as a selection of places from those that are kept. -/
theorem exclude_map_filter (f : α → Modifier) (keep : α → Bool) (as : List α) :
    exclude ((as.filter keep).map f) =
      (keepWhere (fun before a after => keep a &&
        decide (Prevails ((before.filter keep).map f) (f a) ((after.filter keep).map f)))
        [] as).map f := by
  rw [exclude_eq_keepWhere, ← List.map_nil (f := f), keepWhere_map]
  exact congrArg (List.map f) (keepWhere_filter _ keep [] as)

theorem Names.exclude_eq (h : Names f wins as) :
    exclude (as.map f) = (as.filter wins).map f := by
  rw [exclude_eq_keepWhere, ← List.map_nil (f := f), keepWhere_map]
  congr 1
  refine keepWhere_eq_filter [] as fun before a after hsplit => ?_
  rw [Bool.eq_iff_iff, decide_eq_true_iff]
  exact (h before a after hsplit).symm

theorem exists_champion_place (hstrength : IsDirection strength) (ha : a ∈ as)
    (hgroup : (f a).exclusionGroup ≠ none) (hpos : 0 < strength (f a).value) :
    ∃ before b after, as = before ++ b :: after ∧
      (f b).exclusionGroup = (f a).exclusionGroup ∧
      IsChampion strength (before.map f) (f b) (after.map f) := by
  obtain ⟨_, _, _, hlist, hsame, hchampion⟩ :=
    exists_champion hstrength (List.mem_map_of_mem (f := f) ha) hgroup hpos
  obtain ⟨before, rest, rfl, rfl, hrest⟩ := List.map_eq_append_iff.1 hlist
  obtain ⟨b, after, rfl, rfl, rfl⟩ := List.map_eq_cons_iff.1 hrest
  exact ⟨before, b, after, rfl, hsame, hchampion⟩

/-- A list has one place for the champion of a group in a direction. -/
theorem IsChampion.place_eq {before' after' : List α} {b : α}
    (h : IsChampion strength (before.map f) (f a) (after.map f))
    (h' : IsChampion strength (before'.map f) (f b) (after'.map f))
    (hg : (f a).exclusionGroup = (f b).exclusionGroup)
    (hlist : before ++ a :: after = before' ++ b :: after') : a = b := by
  have hmap := congrArg (List.map f) hlist
  simp only [List.map_append, List.map_cons] at hmap
  have hlength := h.length_eq h' hg hmap
  rw [List.length_map, List.length_map] at hlength
  exact (List.cons.inj (List.append_inj hlist hlength).2).1

/-- **No new winner.** Among places that include all that win, one with a value other than zero
wins only if it did among all places. -/
theorem Names.wins_of_prevails (h : Names f wins as) (hkeep : ∀ a, wins a = true → keep a = true)
    (hsplit : as = before ++ a :: after) (ha : keep a = true) (hvalue : (f a).value ≠ 0)
    (hprevails : Prevails ((before.filter keep).map f) (f a) ((after.filter keep).map f)) :
    wins a = true := by
  by_cases hgroup : (f a).exclusionGroup = none
  · exact (h before a after hsplit).2 (.inl hgroup)
  rcases prevails_iff_exists_champion.1 hprevails with hnone | ⟨hzero, _⟩ |
    ⟨strength, hstrength, hchampion⟩
  · exact absurd hnone hgroup
  · exact absurd hzero hvalue
  -- The champion among all places is kept, so it is the champion among those kept as well.
  have hmem : a ∈ as := by simp [hsplit]
  obtain ⟨before', b, after', hsplit', hsame, hchampion'⟩ :=
    exists_champion_place hstrength hmem hgroup hchampion.1
  have hb : wins b = true :=
    (h before' b after' hsplit').2 (prevails_iff_exists_champion.2
      (.inr (.inr ⟨strength, hstrength, hchampion'⟩)))
  have hkept : before'.filter keep ++ b :: after'.filter keep =
      before.filter keep ++ a :: after.filter keep := by
    have hfilter := congrArg (List.filter keep) (hsplit'.symm.trans hsplit)
    simpa [hkeep b hb, ha] using hfilter
  have hremains : IsChampion strength ((before'.filter keep).map f) (f b)
      ((after'.filter keep).map f) :=
    hchampion'.mono (List.filter_sublist.map f) (List.filter_sublist.map f)
  rwa [hremains.place_eq hchampion hsame hkept] at hb

/-- Among places that include all that win, the winners are the same but for zeros. -/
theorem Names.strong_exclude (h : Names f wins as) (hkeep : ∀ a, wins a = true → keep a = true) :
    (exclude ((as.filter keep).map f)).filter (·.value ≠ 0) =
      ((as.filter wins).map f).filter (·.value ≠ 0) := by
  rw [exclude_map_filter, List.filter_map, List.filter_map, ← keepWhere_and, List.filter_filter]
  congr 1
  refine keepWhere_eq_filter [] as fun before a after hsplit => ?_
  rw [Bool.eq_iff_iff]
  simp only [List.nil_append, Bool.and_eq_true, decide_eq_true_iff, Function.comp_apply]
  constructor
  · rintro ⟨⟨ha, hprevails⟩, hvalue⟩
    exact ⟨hvalue, h.wins_of_prevails hkeep hsplit ha hvalue hprevails⟩
  · rintro ⟨hvalue, hwins⟩
    refine ⟨⟨hkeep a hwins, ?_⟩, hvalue⟩
    exact ((h before a after hsplit).1 hwins).mono (List.filter_sublist.map f)
      (List.filter_sublist.map f)

/-- Among the winners alone, all win. -/
theorem Names.exclude_winners (h : Names f wins as) :
    exclude ((as.filter wins).map f) = (as.filter wins).map f := by
  rw [exclude_map_filter]
  congr 1
  refine keepWhere_eq_filter [] as fun before a after hsplit => ?_
  rw [Bool.eq_iff_iff, Bool.and_eq_true, decide_eq_true_iff, List.nil_append]
  refine ⟨And.left, fun hwins => ⟨hwins, ?_⟩⟩
  exact ((h before a after hsplit).1 hwins).mono (List.filter_sublist.map f)
    (List.filter_sublist.map f)

end Places

end Modifier

/-! ## Resolution -/

namespace Resolution

open Modifier

variable (ms : List Modifier) (options : RollOptions) (cap : Score)

/-- The modifiers of a list but those at some positions. -/
def without (gone : Finset (Fin ms.length)) : List Modifier :=
  ((List.finRange ms.length).filter (· ∉ gone)).map ms.get

/-- The positions that do not count. -/
def losers : Finset (Fin ms.length) := Finset.univ.filter (¬ Counts ms options ·)

/-- The positions of the modifiers that are switched on and whose predicate passes. -/
def active : List (Fin ms.length) :=
  (List.finRange ms.length).filter fun i => (ms.get i).isActive options

/-- What stands before a position and after it. -/
theorem around_of_finRange_eq {before after : List (Fin ms.length)} {i : Fin ms.length}
    (h : List.finRange ms.length = before ++ i :: after) :
    before.map ms.get = ms.take i ∧ after.map ms.get = ms.drop (i + 1) := by
  have hplace : before.length = i := by
    have hget : (List.finRange ms.length)[before.length]? = some i := by simp [h]
    obtain ⟨_, hi⟩ := List.getElem?_eq_some_iff.1 hget
    rw [← hi]
    simp
  have hlist : before.map ms.get ++ ms.get i :: after.map ms.get = ms := by
    have hmap := congrArg (List.map ms.get) h
    rw [List.map_get_finRange, List.map_append, List.map_cons] at hmap
    exact hmap.symm
  have htake := congrArg (List.take i) hlist
  have hdrop := congrArg (List.drop (i + 1)) hlist
  rw [List.take_left' (by simp [hplace])] at htake
  rw [List.append_cons, List.drop_left' (by simp [hplace])] at hdrop
  exact ⟨htake, hdrop⟩

/-- **The positions that count** are those that win among the active ones. -/
theorem names_counts : Names ms.get (Counts ms options ·) (active ms options) := by
  intro before i after hsplit
  obtain ⟨front, back, hfinRange, rfl, hback⟩ := List.filter_eq_append_iff.1 hsplit
  obtain ⟨skipped, behind, rfl, hskipped, hactive, rfl⟩ := List.filter_eq_cons_iff.1 hback
  rw [← List.append_assoc] at hfinRange
  obtain ⟨hbefore, hafter⟩ := around_of_finRange_eq ms hfinRange
  have hnone : skipped.filter (fun j => (ms.get j).isActive options) = [] :=
    List.filter_eq_nil_iff.2 hskipped
  have hearlier : (ms.take i).filter (·.isActive options) =
      (front.filter fun j => (ms.get j).isActive options).map ms.get := by
    rw [← hbefore, List.filter_map, List.filter_append, Function.comp_def, hnone, List.append_nil]
  have hlater : (ms.drop (i + 1)).filter (·.isActive options) =
      (behind.filter fun j => (ms.get j).isActive options).map ms.get := by
    rw [← hafter, List.filter_map, Function.comp_def]
  rw [decide_eq_true_iff, Counts, hearlier, hlater, ← and_assoc, ← Bool.and_eq_true]
  exact and_iff_right hactive

theorem filter_isActive : ms.filter (·.isActive options) = (active ms options).map ms.get := by
  have hlist : ((List.finRange ms.length).map ms.get).filter (·.isActive options) =
      (active ms options).map ms.get := List.filter_map
  rwa [List.map_get_finRange] at hlist

theorem filter_without (gone : Finset (Fin ms.length)) :
    (without ms gone).filter (·.isActive options) =
      ((active ms options).filter (· ∉ gone)).map ms.get := by
  rw [without, active, List.filter_map, List.filter_filter, List.filter_filter]
  congr 2
  funext i
  exact Bool.and_comm _ _

variable {ms options} in
theorem not_mem_losers {i : Fin ms.length} : i ∉ losers ms options ↔ Counts ms options i := by
  simp [losers]

/-- The applied modifiers are the list without its losers. -/
theorem applied_eq_without :
    (resolve ms options cap).applied = without ms (losers ms options) := by
  show exclude (ms.filter _) = _
  rw [filter_isActive, (names_counts ms options).exclude_eq, without, active, List.filter_filter]
  congr 2
  funext i
  rw [Bool.eq_iff_iff]
  simp only [Bool.and_eq_true, decide_eq_true_eq, not_mem_losers]
  refine ⟨And.left, fun hcounts => ⟨hcounts, ?_⟩⟩
  exact Bool.and_eq_true_iff.2 ⟨hcounts.1, hcounts.2.1⟩

variable {ms options} in
/-- Deleting losers leaves the applied modifiers other than zeros. -/
theorem strong_without {gone : Finset (Fin ms.length)} (hgone : gone ⊆ losers ms options) :
    (resolve (without ms gone) options cap).applied.filter (·.value ≠ 0) =
      (resolve ms options cap).applied.filter (·.value ≠ 0) := by
  have hkeep : ∀ i, decide (Counts ms options i) = true → decide (i ∉ gone) = true := by
    intro i hcounts
    exact decide_eq_true fun hi => not_mem_losers.2 (of_decide_eq_true hcounts) (hgone hi)
  have hnames := names_counts ms options
  show (exclude ((without ms gone).filter _)).filter _ = (exclude (ms.filter _)).filter _
  rw [filter_without, hnames.strong_exclude hkeep, filter_isActive, hnames.exclude_eq]

/-- Deleting all losers leaves all applied modifiers. -/
theorem applied_without_losers :
    (resolve (without ms (losers ms options)) options cap).applied =
      (resolve ms options cap).applied := by
  have hnames := names_counts ms options
  show exclude ((without ms _).filter _) = exclude (ms.filter _)
  rw [filter_without, filter_isActive, hnames.exclude_eq]
  simp only [not_mem_losers]
  exact hnames.exclude_winners

/-- The total is that of the applied modifiers other than zeros. -/
theorem total_eq_sum_strong :
    (resolve ms options cap).total = .within cap
      (.sum (((resolve ms options cap).applied.filter (·.value ≠ 0)).map (·.value))) := by
  show Score.within cap _ = _
  rw [← Score.sum_filter_ne_zero, List.filter_map]
  rfl

/-- **Losers are irrelevant.** Deleting any positions that do not count leaves the total and the
applied modifiers other than zeros, and deleting all of them leaves all applied modifiers. These are
then the whole list, so to resolve them again gives the same. -/
theorem resolve_without_losers (ms : List Modifier) (options : RollOptions) (cap : Score) :
    let r := resolve ms options cap
    r.applied = without ms (losers ms options) ∧
    (∀ gone ⊆ losers ms options,
      (resolve (without ms gone) options cap).total = r.total ∧
      (resolve (without ms gone) options cap).applied.filter (·.value ≠ 0) =
        r.applied.filter (·.value ≠ 0)) ∧
    (resolve (without ms (losers ms options)) options cap).applied = r.applied ∧
    resolve r.applied options cap = { r with all := r.applied } := by
  intro r
  have htotal : ∀ gone ⊆ losers ms options,
      (resolve (without ms gone) options cap).total = r.total := by
    intro gone hgone
    rw [total_eq_sum_strong, strong_without cap hgone, ← total_eq_sum_strong]
  refine ⟨applied_eq_without ms options cap, fun gone hgone => ?_, ?_, ?_⟩
  · exact ⟨htotal gone hgone, strong_without cap hgone⟩
  · exact applied_without_losers ms options cap
  · have hall : (resolve (without ms (losers ms options)) options cap).all =
        without ms (losers ms options) := rfl
    have happlied := applied_without_losers ms options cap
    rw [← applied_eq_without ms options cap] at hall happlied
    have hagain := htotal _ (Finset.Subset.refl _)
    rw [← applied_eq_without ms options cap] at hagain
    exact (Resolution.mk.injEq ..).mpr ⟨hagain, happlied, hall⟩

/-! ### Two charms

A gunner who takes a full aim carries two charms, neither of which is worth anything. Each keeps the
other from counting. Once the coin is gone the bone counts, and the total is what it was.
-/

def charm (label : String) : Modifier where
  label
  value := 0
  exclusionGroup := some "luck"

def bone : Modifier := charm "Bone of a Saint"

def coin : Modifier := charm "Lucky Coin"

def aimed : List Modifier :=
  [PendingCheck.halfAim, bone, PendingCheck.fullAim, PendingCheck.laserSight, coin]

/-- The positions of half an aim and of the coin. -/
def spare : Finset (Fin aimed.length) := {⟨0, by decide⟩, ⟨4, by decide⟩}

theorem resolve_without_losers_coin :
    spare ⊆ losers aimed ∅ ∧
    (resolve (without aimed spare) ∅ 60).total = (resolve aimed ∅ 60).total ∧
    (resolve (without aimed spare) ∅ 60).applied.filter (·.value ≠ 0) =
      (resolve aimed ∅ 60).applied.filter (·.value ≠ 0) ∧
    (resolve aimed ∅ 60).applied = [PendingCheck.fullAim] ∧
    (resolve (without aimed spare) ∅ 60).applied = [bone, PendingCheck.fullAim] := by
  have hlosers : spare ⊆ losers aimed ∅ := by decide +kernel
  obtain ⟨_, hdelete, _, _⟩ := resolve_without_losers aimed ∅ 60
  obtain ⟨htotal, hstrong⟩ := hdelete spare hlosers
  exact ⟨hlosers, htotal, hstrong, by decide +kernel, by decide +kernel⟩

end Resolution

end Percentile
