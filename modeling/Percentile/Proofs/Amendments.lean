import Mathlib.Data.List.Induction
import Mathlib.Logic.Function.Iterate
import Percentile.Proofs.Confirmation

/-!
# What a run of amendments comes to

A dialog may toggle modifiers, add modifiers and add roll options, in any order and at any
positions. This file says what is left of that in the end.

**The modifiers** (`getElem?_amendAll`). Where nothing is toggled, the modifiers added stand behind
those of the check, in the order in which they were added. A toggle counts for the modifier that
stands at its position *at that moment* (`switchings`), and is lost where none stands there yet.

**The roll options** (`mem_rollOptions_amendAll`). They gain the tags added, and no other.

**Theorem (`amendAll_does_no_more`).** Both together, with the answer to the next toggle and with
all that no amendment can touch.
-/

namespace Percentile

/-- The modifier that an amendment adds, if it adds one. -/
def Amendment.added? : Amendment → Option Modifier
  | .addModifier m => some m
  | .toggle _ | .addRollOption _ => none

/-- A modifier switched several times is switched as often, if it may be switched at all. -/
theorem Modifier.iterate_switched (m : Modifier) (n : Nat) :
    Modifier.switched^[n] m =
      { m with enabled := if m.toggleable then Bool.not^[n] m.enabled else m.enabled } := by
  induction n with
  | zero => simp
  | succ n ih =>
    rw [Function.iterate_succ_apply', Function.iterate_succ_apply', ih]
    unfold switched
    by_cases htoggleable : m.toggleable = true
    · simp [htoggleable]
    · simp [htoggleable]

namespace PendingCheck

variable (p : PendingCheck) (amendments : List Amendment)

/-! ## One toggle -/

variable {p} {position : Nat} {state : Bool}

theorem toggle_snd_eq_none_iff :
    (p.toggle position).2 = none ↔
      ∀ m, p.modifiers[position]? = some m → m.toggleable = false := by
  unfold toggle
  cases hm : p.modifiers[position]? with
  | none => simp
  | some m => by_cases htoggleable : m.toggleable = true <;> simp [htoggleable]

/-- A toggle answers with the state in which it leaves the modifier. -/
theorem toggle_snd_eq_some_iff :
    (p.toggle position).2 = some state ↔
      ∃ m, (p.toggle position).1.modifiers[position]? = some m ∧ m.toggleable = true ∧
        m.enabled = state := by
  rw [toggle_fst]
  unfold toggle
  cases hm : p.modifiers[position]? with
  | none => simp [hm]
  | some m => by_cases htoggleable : m.toggleable = true <;>
      simp [hm, htoggleable, Modifier.switched]

/-- A toggle without an answer changes nothing. -/
theorem toggle_fst_of_snd_eq_none (h : (p.toggle position).2 = none) :
    (p.toggle position).1 = p := by
  unfold toggle at h ⊢
  cases hm : p.modifiers[position]? with
  | none => rfl
  | some m =>
    by_cases htoggleable : m.toggleable = true
    · simp [hm, htoggleable] at h
    · simp [htoggleable]

variable (p)

/-! ## One amendment more -/

theorem amendAll_append_singleton (a : Amendment) :
    p.amendAll (amendments ++ [a]) = (p.amendAll amendments).amend a := by
  simp [amendAll]

/-- The modifiers of the check and behind them those that the amendments add, as they are before
any of them is switched. -/
def unswitched : List Modifier := p.modifiers ++ amendments.filterMap Amendment.added?

theorem unswitched_append_singleton (a : Amendment) :
    p.unswitched (amendments ++ [a]) = p.unswitched amendments ++ a.added?.toList := by
  cases a <;> simp [unswitched, Amendment.added?]

theorem length_unswitched_take_le (moment : Nat) :
    (p.unswitched (amendments.take moment)).length ≤ (p.unswitched amendments).length := by
  have hsublist := (List.take_sublist moment amendments).filterMap Amendment.added?
  simpa [unswitched] using hsublist.length_le

/-- How often a position is toggled at a moment when a modifier already stands there. -/
def switchings (position : Nat) : Nat :=
  (List.range amendments.length).countP fun moment =>
    amendments[moment]? = some (.toggle position) ∧
      position < (p.unswitched (amendments.take moment)).length

theorem switchings_append_singleton (a : Amendment) (position : Nat) :
    p.switchings (amendments ++ [a]) position = p.switchings amendments position +
      if a = .toggle position ∧ position < (p.unswitched amendments).length then 1 else 0 := by
  have hearlier : ∀ moment ∈ List.range amendments.length,
      (amendments ++ [a])[moment]? = amendments[moment]? ∧
        (amendments ++ [a]).take moment = amendments.take moment := by
    intro moment hmoment
    have hlt := List.mem_range.1 hmoment
    exact ⟨List.getElem?_append_left hlt, List.take_append_of_le_length (Nat.le_of_lt hlt)⟩
  unfold switchings
  rw [List.length_append, List.length_singleton, List.range_succ, List.countP_append]
  congr 1
  · apply List.countP_congr
    intro moment hmoment
    obtain ⟨hget, htake⟩ := hearlier moment hmoment
    rw [hget, htake]
  · simp [List.countP_cons]

/-- Where no modifier stands, nothing was switched. -/
theorem switchings_eq_zero {position : Nat} (h : (p.unswitched amendments).length ≤ position) :
    p.switchings amendments position = 0 := by
  unfold switchings
  rw [List.countP_eq_zero]
  intro moment _ hcounts
  have hthen := (of_decide_eq_true hcounts).2
  have hle := p.length_unswitched_take_le amendments moment
  omega

/-! ## The whole run -/

theorem length_modifiers_amendAll :
    (p.amendAll amendments).modifiers.length = (p.unswitched amendments).length := by
  induction amendments using List.reverseRecOn with
  | nil => simp [amendAll, unswitched]
  | append_singleton earlier a ih =>
    rw [amendAll_append_singleton, unswitched_append_singleton]
    cases a with
    | toggle position => simp [amend, toggle_fst, Amendment.added?, ih]
    | addModifier m => simp [amend, addModifier, Amendment.added?, ih]
    | addRollOption tag => simp [amend, addRollOption, Amendment.added?, ih]

/-- **Each position holds the modifier that came to stand there**, switched as often as it was
toggled from then on. -/
theorem getElem?_amendAll (position : Nat) :
    (p.amendAll amendments).modifiers[position]? =
      (p.unswitched amendments)[position]?.map
        Modifier.switched^[p.switchings amendments position] := by
  -- The run grows at its end, because a toggle sees only what stands there before it.
  induction amendments using List.reverseRecOn generalizing position with
  | nil => simp [amendAll, unswitched, switchings]
  | append_singleton earlier a ih =>
    rw [amendAll_append_singleton, unswitched_append_singleton, switchings_append_singleton]
    cases a with
    | toggle toggled =>
      simp only [amend, toggle_fst, List.getElem?_modify, ih, Amendment.added?, Option.toList_none,
        List.append_nil, Amendment.toggle.injEq]
      by_cases hhere : toggled = position ∧ position < (p.unswitched earlier).length
      · rw [if_pos hhere, hhere.1, Function.iterate_succ']
        simp
      · rw [if_neg hhere, Nat.add_zero]
        by_cases htoggled : toggled = position
        · have hnone : (p.unswitched earlier)[position]? = none :=
            List.getElem?_eq_none (Nat.le_of_not_lt fun hlt => hhere ⟨htoggled, hlt⟩)
          simp [hnone]
        · simp [htoggled]
    | addModifier m =>
      have hlength := p.length_modifiers_amendAll earlier
      simp only [amend, addModifier, Amendment.added?, Option.toList_some, reduceCtorEq, false_and,
        if_false, Nat.add_zero]
      by_cases hlt : position < (p.unswitched earlier).length
      · rw [List.getElem?_append_left hlt, List.getElem?_append_left (hlength ▸ hlt), ih]
      · have hle := Nat.le_of_not_lt hlt
        rw [List.getElem?_append_right hle, List.getElem?_append_right (hlength ▸ hle),
          p.switchings_eq_zero earlier hle, hlength]
        simp
    | addRollOption tag =>
      simpa [amend, addRollOption, Amendment.added?] using ih position

theorem mem_rollOptions_amendAll {tag : String} :
    tag ∈ (p.amendAll amendments).rollOptions ↔
      tag ∈ p.rollOptions ∨ .addRollOption tag ∈ amendments := by
  induction amendments using List.reverseRecOn with
  | nil => simp [amendAll]
  | append_singleton earlier a ih =>
    rw [amendAll_append_singleton]
    cases a with
    | toggle position => simp [amend, toggle_fst, ih]
    | addModifier m => simp [amend, addModifier, ih]
    | addRollOption added =>
      simp only [amend, addRollOption, RollOptions.mem_insert, ih, List.mem_append,
        List.mem_singleton, Amendment.addRollOption.injEq]
      tauto

end PendingCheck

/-- **Amendments do no more than they may.** The modifiers are those of the check and behind them
those added, in their order, and they differ from these at most in whether they are switched on. A
modifier that may be switched is switched once for each toggle of its position since it stands
there, and any other never. A toggle answers with the new state exactly where a modifier that may be
switched stands, and else changes nothing. The roll options gain the tags added, and the rest of the
check stays as it is. -/
theorem PendingCheck.amendAll_does_no_more (p : PendingCheck) (amendments : List Amendment) :
    let q := p.amendAll amendments
    (q.modifiers = (p.modifiers ++ amendments.filterMap Amendment.added?).mapIdx fun position m =>
      { m with enabled :=
          if m.toggleable then Bool.not^[p.switchings amendments position] m.enabled
          else m.enabled }) ∧
    (∀ position,
      ((q.toggle position).2 = none ↔
        ∀ m, q.modifiers[position]? = some m → m.toggleable = false) ∧
      ((q.toggle position).2 = none → (q.toggle position).1 = q) ∧
      ∀ state, (q.toggle position).2 = some state ↔
        ∃ m, (q.toggle position).1.modifiers[position]? = some m ∧ m.toggleable = true ∧
          m.enabled = state) ∧
    (∀ tag, tag ∈ q.rollOptions ↔ tag ∈ p.rollOptions ∨ .addRollOption tag ∈ amendments) ∧
    q = { p with modifiers := q.modifiers, rollOptions := q.rollOptions } := by
  intro q
  refine ⟨?_, ?_, fun tag => p.mem_rollOptions_amendAll amendments, p.amendAll_eq amendments⟩
  · apply List.ext_getElem?
    intro position
    rw [p.getElem?_amendAll amendments position, List.getElem?_mapIdx]
    congr 1
    funext m
    exact m.iterate_switched _
  · intro position
    exact ⟨toggle_snd_eq_none_iff, toggle_fst_of_snd_eq_none, fun state => toggle_snd_eq_some_iff⟩

/-! ### A hesitant shot

The player switches a brace off before it is there, and then once it is. The cover of the target is
not for the player to switch.
-/

def brace : Modifier := { label := "Brace", value := 10, toggleable := true }

def coverOfTarget : Modifier := { label := "Cover", value := .clamp (-20) }

def hesitantShot : PendingCheck where
  actor := default
  label := "Shot"
  domain := ⟨"shot"⟩
  baseTarget := 45
  modifiers := [coverOfTarget]
  rollOptions := ∅
  adjustments := []
  cap := 60

def hesitation : List Amendment := [.toggle 1, .addModifier brace, .toggle 1, .toggle 0]

theorem amendAll_does_no_more_brace :
    (hesitantShot.amendAll hesitation).modifiers =
      [coverOfTarget, { brace with enabled := false }] ∧
    ((hesitantShot.amendAll hesitation).toggle 0).1 = hesitantShot.amendAll hesitation := by
  obtain ⟨hmodifiers, htoggle, -⟩ := hesitantShot.amendAll_does_no_more hesitation
  obtain ⟨hnone, hunchanged, -⟩ := htoggle 0
  have hfinal : (hesitantShot.amendAll hesitation).modifiers =
      [coverOfTarget, { brace with enabled := false }] := hmodifiers.trans (by decide +kernel)
  refine ⟨hfinal, hunchanged (hnone.2 ?_)⟩
  intro m hm
  rw [hfinal] at hm
  rw [← Option.some.inj hm]
  rfl

end Percentile
