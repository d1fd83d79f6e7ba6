import Mathlib.Data.List.ReduceOption
import Mathlib.Data.UInt
import Percentile.Check.Engine

/-!
# What a session spends and keeps

Check after check is rolled with the same dice and reported to the same log. Some are cancelled in
between, by dialogs that remember what they were shown before. This file accounts for the dice, for
the log and for the dialogs.

**One call** (`Call.run_of_cancelled`, `Call.run_of_confirmed`). A dialog sees neither dice nor log,
so a call first settles with its dialog which check is to be rolled (`Call.confirm`), and then
finishes that check with one roll and one entry, or leaves dice and log alone.

**Many calls** (`Session.play_eq`). So a session is as long as the confirmed checks
(`Call.confirmAll`), finished one after the other: what was cancelled in between leaves no trace but
in the dialogs.

**Dialogs** (`Session.play_recorded`). A dialog may keep the checks that it is shown, and nothing
else changes by that. What it has kept after a session are the prepared checks of the calls that do
not skip it, each once.

**Theorem (`accounts_of_play`).** With scripted dice, the `k`-th check that is completed gets the
`k`-th result of the script, and the script loses one result for each completed check.
-/

namespace Percentile

variable {σ δ : Type} [DieRoller σ]

/-! ## One call -/

/-- A check to roll, with the dialog that it is shown to. -/
structure Call (δ : Type) where
  engine : Engine
  context : Context
  dialog : Dialog δ

namespace Call

/-- The check that the dialog is shown. -/
def prepared (call : Call δ) : PendingCheck := call.engine.prepare call.context

/-- The dialog is shown, and cancels. -/
def IsCancelled (call : Call δ) (d : δ) : Prop :=
  call.context.skipDialog = false ∧ (call.dialog d call.prepared).1.2 = .cancelled

/-- The check that the call rolls, unless it is cancelled, and the state of the dialog after it. -/
def confirm (call : Call δ) (d : δ) : Option PendingCheck × δ :=
  call.engine.confirm call.context call.dialog d

def run (call : Call δ) (s : Session σ) (d : δ) : Option CheckResult × Session σ × δ :=
  call.engine.roll call.context call.dialog s d

theorem confirm_of_skipDialog {call : Call δ} (h : call.context.skipDialog = true) (d : δ) :
    call.confirm d = (some call.prepared, d) :=
  if_pos h

/-- A dialog that is shown decides, and comes to its next state either way. -/
theorem confirm_of_shown {call : Call δ} (h : call.context.skipDialog = false) (d : δ) :
    call.confirm d =
      let shown := call.dialog d call.prepared
      (if shown.1.2 = .confirmed then some shown.1.1 else none, shown.2) :=
  if_neg (Bool.eq_false_iff.1 h)

theorem confirm_eq_none_iff (call : Call δ) (d : δ) :
    (call.confirm d).1 = none ↔ call.IsCancelled d := by
  unfold IsCancelled
  cases hskip : call.context.skipDialog with
  | true =>
    rw [confirm_of_skipDialog hskip]
    simp
  | false =>
    rw [confirm_of_shown hskip]
    cases hdecision : (call.dialog d call.prepared).1.2 <;> simp [hdecision]

theorem run_of_cancelled {call : Call δ} {d d' : δ} (h : call.confirm d = (none, d'))
    (s : Session σ) : call.run s d = (none, s, d') := by
  have hnone : call.engine.confirm call.context call.dialog d = (none, d') := h
  unfold run Engine.roll
  rw [hnone]

theorem run_of_confirmed {call : Call δ} {d d' : δ} {p : PendingCheck}
    (h : call.confirm d = (some p, d')) (s : Session σ) :
    call.run s d = (some (p.finish s.dice).1,
      { dice := (p.finish s.dice).2, log := s.log ++ [(p.finish s.dice).1] }, d') := by
  have hsome : call.engine.confirm call.context call.dialog d = (some p, d') := h
  unfold run Engine.roll
  rw [hsome]
  rfl

/-- A dialog that is skipped does nothing, and the prepared check is rolled. -/
theorem run_of_skipDialog {call : Call δ} (h : call.context.skipDialog = true) (s : Session σ)
    (d : δ) :
    call.run s d = (some (call.prepared.finish s.dice).1,
      { dice := (call.prepared.finish s.dice).2,
        log := s.log ++ [(call.prepared.finish s.dice).1] }, d) :=
  run_of_confirmed (confirm_of_skipDialog h d) s

/-- The check that a dialog leaves is rolled, if it confirms. -/
theorem run_of_shown {call : Call δ} {d : δ} (h : call.context.skipDialog = false)
    (hconfirmed : (call.dialog d call.prepared).1.2 = .confirmed) (s : Session σ) :
    (call.run s d).1 = some ((call.dialog d call.prepared).1.1.finish s.dice).1 := by
  have hconfirm : call.confirm d =
      (some (call.dialog d call.prepared).1.1, (call.dialog d call.prepared).2) := by
    simp only [confirm_of_shown h, if_pos hconfirmed]
  rw [run_of_confirmed hconfirm]

/-- The dialog comes to the same state whatever the dice. -/
theorem run_state (call : Call δ) (s : Session σ) (d : δ) :
    (call.run s d).2.2 = (call.confirm d).2 := by
  rcases hconfirm : call.confirm d with ⟨_ | p, d'⟩
  · rw [run_of_cancelled hconfirm]
  · rw [run_of_confirmed hconfirm]

/-- A call gives nothing exactly if it is cancelled. -/
theorem run_eq_none_iff (call : Call δ) (s : Session σ) (d : δ) :
    (call.run s d).1 = none ↔ call.IsCancelled d := by
  rw [← confirm_eq_none_iff]
  rcases hconfirm : call.confirm d with ⟨_ | p, d'⟩
  · simp [run_of_cancelled hconfirm]
  · simp [run_of_confirmed hconfirm]

/-- A call that gives nothing leaves the session alone. -/
theorem run_of_eq_none {call : Call δ} {s : Session σ} {d : δ} (h : (call.run s d).1 = none) :
    (call.run s d).2.1 = s := by
  rcases hconfirm : call.confirm d with ⟨_ | p, d'⟩
  · rw [run_of_cancelled hconfirm]
  · rw [run_of_confirmed hconfirm] at h
    cases h

end Call

/-! ## Many calls -/

/-- The checks that are confirmed in calls one after the other, and the state of the dialogs after
them. -/
def Call.confirmAll (d : δ) : List (Call δ) → List PendingCheck × δ
  | [] => ([], d)
  | call :: later =>
    let (p?, d) := call.confirm d
    let (ps, d) := confirmAll d later
    (p?.toList ++ ps, d)

/-- Finish pending checks one after the other, with the same dice. -/
def PendingCheck.finishAll (dice : σ) : List PendingCheck → List CheckResult × σ
  | [] => ([], dice)
  | p :: rest =>
    let (result, dice) := p.finish dice
    let (results, dice) := finishAll dice rest
    (result :: results, dice)

namespace Session

/-- Make calls one after the other: their answers, and the session and the dialogs after them. -/
def play (s : Session σ) (d : δ) : List (Call δ) → List (Option CheckResult) × Session σ × δ
  | [] => ([], s, d)
  | call :: later =>
    let (answer, s, d) := call.run s d
    let (answers, s, d) := play s d later
    (answer :: answers, s, d)

/-- The log grows by the answers, without those that give nothing. -/
theorem log_play (s : Session σ) (d : δ) (calls : List (Call δ)) :
    (s.play d calls).2.1.log = s.log ++ (s.play d calls).1.reduceOption := by
  induction calls generalizing s d with
  | nil => exact (List.append_nil _).symm
  | cons call later ih =>
    show ((call.run s d).2.1.play (call.run s d).2.2 later).2.1.log =
      s.log ++
        ((call.run s d).1 :: ((call.run s d).2.1.play (call.run s d).2.2 later).1).reduceOption
    rw [ih]
    rcases hconfirm : call.confirm d with ⟨_ | p, d'⟩
    · rw [Call.run_of_cancelled hconfirm, List.reduceOption_cons_of_none]
    · rw [Call.run_of_confirmed hconfirm, List.reduceOption_cons_of_some, List.append_assoc]
      rfl

/-- **A session is as long as the confirmed checks.** Without the cancelled calls, dice and log come
out the same. -/
theorem play_eq (s : Session σ) (d : δ) (calls : List (Call δ)) :
    let finished := PendingCheck.finishAll s.dice (Call.confirmAll d calls).1
    (s.play d calls).2 =
      ({ dice := finished.2, log := s.log ++ finished.1 }, (Call.confirmAll d calls).2) := by
  induction calls generalizing s d with
  | nil =>
    show (s, d) = ({ dice := s.dice, log := s.log ++ [] }, d)
    rw [List.append_nil]
  | cons call later ih =>
    intro finished
    show ((call.run s d).2.1.play (call.run s d).2.2 later).2 = _
    rcases hconfirm : call.confirm d with ⟨_ | p, d'⟩
    · rw [Call.run_of_cancelled hconfirm, ih]
      simp only [finished, Call.confirmAll, hconfirm]
      rfl
    · rw [Call.run_of_confirmed hconfirm, ih]
      simp only [finished, Call.confirmAll, hconfirm]
      simp [PendingCheck.finishAll]

end Session

/-! ## What dialogs are shown -/

/-- The dialog that also keeps the checks it is shown. -/
def Dialog.recording (dialog : Dialog δ) : Dialog (List PendingCheck × δ) := fun (shown, d) p =>
  let (answer, d) := dialog d p
  (answer, shown ++ [p], d)

namespace Call

/-- The call with a dialog that keeps the checks it is shown. -/
def recorded (call : Call δ) : Call (List PendingCheck × δ) :=
  { call with dialog := call.dialog.recording }

/-- The checks that the dialog of a call is shown. -/
def shownChecks (call : Call δ) : List PendingCheck :=
  if call.context.skipDialog then [] else [call.prepared]

/-- Keeping records does not change what is confirmed. -/
theorem confirm_recorded (call : Call δ) (before : List PendingCheck) (d : δ) :
    call.recorded.confirm (before, d) =
      ((call.confirm d).1, before ++ call.shownChecks, (call.confirm d).2) := by
  unfold shownChecks
  cases hskip : call.context.skipDialog with
  | true =>
    have hrecorded : call.recorded.context.skipDialog = true := hskip
    rw [confirm_of_skipDialog hskip, confirm_of_skipDialog hrecorded, if_pos rfl, List.append_nil]
    rfl
  | false =>
    have hrecorded : call.recorded.context.skipDialog = false := hskip
    rw [confirm_of_shown hskip, confirm_of_shown hrecorded, if_neg Bool.false_ne_true]
    rfl

theorem run_recorded (call : Call δ) (s : Session σ) (before : List PendingCheck) (d : δ) :
    call.recorded.run s (before, d) =
      ((call.run s d).1, (call.run s d).2.1, before ++ call.shownChecks, (call.run s d).2.2) := by
  have hrecorded := call.confirm_recorded before d
  rcases hconfirm : call.confirm d with ⟨_ | p, d'⟩
  · rw [hconfirm] at hrecorded
    rw [run_of_cancelled hconfirm, run_of_cancelled hrecorded]
  · rw [hconfirm] at hrecorded
    rw [run_of_confirmed hconfirm, run_of_confirmed hrecorded]

end Call

/-- **A dialog is shown the prepared checks of the calls that do not skip it**, each once, and
nothing else. -/
theorem Session.play_recorded (s : Session σ) (before : List PendingCheck) (d : δ)
    (calls : List (Call δ)) :
    s.play (before, d) (calls.map Call.recorded) =
      ((s.play d calls).1, (s.play d calls).2.1, before ++ calls.flatMap Call.shownChecks,
        (s.play d calls).2.2) := by
  induction calls generalizing s before d with
  | nil =>
    show _ = ([], s, before ++ [], d)
    rw [List.append_nil]
    rfl
  | cons call later ih =>
    simp only [List.map_cons, play, Call.run_recorded, ih, List.flatMap_cons, List.append_assoc]

/-! ## Scripted dice -/

/-- The score that a percentile die shows for a result of the script. -/
def ScriptedDice.shown (face : UInt32) : Score := .clamp (max 1 (min face 100)).toNat

theorem ScriptedDice.toInt_shown (face : UInt32) :
    (shown face).toInt = max 1 (min (face.toNat : Int) 100) := by
  unfold shown
  rw [Score.toInt_clamp, UInt32.toNat_max, UInt32.toNat_min]
  have h₁ : (1 : UInt32).toNat = 1 := rfl
  have h₁₀₀ : (100 : UInt32).toNat = 100 := rfl
  omega

namespace PendingCheck

theorem length_finishAll (dice : σ) (checks : List PendingCheck) :
    (finishAll dice checks).1.length = checks.length := by
  induction checks generalizing dice with
  | nil => rfl
  | cons p rest ih => exact congrArg (· + 1) (ih _)

/-- Each check takes one result of the script, as long as there are any. -/
theorem remaining_finishAll (dice : ScriptedDice) (checks : List PendingCheck) :
    (finishAll dice checks).2.remaining = dice.remaining - checks.length := by
  induction checks generalizing dice with
  | nil => rfl
  | cons p rest ih =>
    show (finishAll (p.finish dice).2 rest).2.remaining = dice.remaining - (rest.length + 1)
    rw [ih]
    have hstep : (p.finish dice).2.remaining = dice.remaining - 1 := by
      rcases dice with ⟨queue, fallback⟩
      cases queue <;> rfl
    omega

/-- The `k`-th check gets the `k`-th result of the script. -/
theorem getElem?_finishAll {dice : ScriptedDice} {k : Nat} {face : UInt32}
    (h : dice.queue[k]? = some face) (checks : List PendingCheck) :
    (finishAll dice checks).1[k]? = checks[k]?.map (·.result (ScriptedDice.shown face)) := by
  induction checks generalizing dice k with
  | nil => rfl
  | cons p rest ih =>
    rcases dice with ⟨queue, fallback⟩
    cases queue with
    | nil => exact absurd h nofun
    | cons first queue =>
      cases k with
      | zero =>
        cases h
        rfl
      | succ k => exact ih h

end PendingCheck

/-- **What a session spends and keeps.** One log and one script are shared by any calls, and their
dialogs share a state. The log holds the answers that give something, in the order of the calls.

A call gives nothing exactly if its dialog is shown and cancels, and then it changes neither script
nor log. A dialog that is skipped has no say: it is left in its state, the prepared check is rolled,
and any other dialog would do as well. A dialog that is not skipped is shown the prepared check and
left in the state after that, and if it confirms, the check that it leaves is rolled. So over the
session, the dialogs are shown the prepared checks of the calls that do not skip them, each once.

The `k`-th completed check is the `k`-th one confirmed, rolled with the `k`-th result of the script,
and the script loses one result for each of them. -/
theorem accounts_of_play (queue : List UInt32) (fallback : SeededDice) (d : δ)
    (calls : List (Call δ)) :
    let start : Session ScriptedDice := { dice := { queue, fallback } }
    let answers := (start.play d calls).1
    let after := (start.play d calls).2.1
    after.log = answers.reduceOption ∧
    (∀ (call : Call δ) (s : Session ScriptedDice) (d : δ),
      ((call.run s d).1 = none ↔ call.IsCancelled d) ∧
      ((call.run s d).1 = none → (call.run s d).2.1 = s) ∧
      (call.context.skipDialog = true →
        (call.run s d).2.2 = d ∧
        (call.run s d).1 = some (call.prepared.finish s.dice).1 ∧
        ∀ dialog, Call.run { call with dialog } s d = call.run s d) ∧
      (call.context.skipDialog = false →
        let shown := call.dialog d call.prepared
        (call.run s d).2.2 = shown.2 ∧
        (shown.1.2 = .confirmed → (call.run s d).1 = some (shown.1.1.finish s.dice).1))) ∧
    start.play ([], d) (calls.map Call.recorded) =
      (answers, after, calls.flatMap Call.shownChecks, (start.play d calls).2.2) ∧
    (∀ (k : Nat) (face : UInt32), queue[k]? = some face →
      after.log[k]? =
        (Call.confirmAll d calls).1[k]?.map (·.result (ScriptedDice.shown face)) ∧
      ∀ result, after.log[k]? = some result →
        result.roll.toInt = max 1 (min (face.toNat : Int) 100)) ∧
    after.dice.remaining = queue.length - after.log.length := by
  intro start answers after
  have hafter : after =
      { dice := (PendingCheck.finishAll start.dice (Call.confirmAll d calls).1).2,
        log := (PendingCheck.finishAll start.dice (Call.confirmAll d calls).1).1 } :=
    congrArg Prod.fst (start.play_eq d calls)
  refine ⟨start.log_play d calls, ?_, start.play_recorded [] d calls, ?_, ?_⟩
  · intro call s d
    refine ⟨call.run_eq_none_iff s d, Call.run_of_eq_none, ?_, ?_⟩
    · intro hskip
      rw [Call.run_of_skipDialog hskip]
      refine ⟨rfl, rfl, fun dialog => ?_⟩
      have hother : ({ call with dialog } : Call δ).context.skipDialog = true := hskip
      exact Call.run_of_skipDialog hother s d
    · intro hskip shown
      refine ⟨?_, fun hconfirmed => Call.run_of_shown hskip hconfirmed s⟩
      rw [call.run_state, Call.confirm_of_shown hskip]
  · intro k face hface
    have hentry : after.log[k]? =
        (Call.confirmAll d calls).1[k]?.map (·.result (ScriptedDice.shown face)) := by
      rw [hafter]
      have hscript : start.dice.queue[k]? = some face := hface
      exact PendingCheck.getElem?_finishAll hscript _
    refine ⟨hentry, fun result hresult => ?_⟩
    rw [hentry, Option.map_eq_some_iff] at hresult
    obtain ⟨p, -, rfl⟩ := hresult
    exact ScriptedDice.toInt_shown face
  · rw [hafter]
    show (PendingCheck.finishAll start.dice _).2.remaining = _
    rw [PendingCheck.remaining_finishAll, PendingCheck.length_finishAll]
    rfl

/-! ### A shot that is called off

Three shots share a script of two results. The player is asked about the first two and calls off the
second. The third is taken without asking, so it gets the second result, which is more than the die
can show.
-/

/-- The player who confirms the first shot, calls off the second, and so on. -/
def fickle : Dialog Nat := fun n p => ((p, if n % 2 = 0 then .confirmed else .cancelled), n + 1)

def shot : Call Nat where
  engine := {}
  context := { actor := { name := "Scout" }, baseTarget := 45, label := "Shot", domain := ⟨"shot"⟩ }
  dialog := fickle

/-- A shot that is taken without asking. -/
def hastyShot : Call Nat := { shot with context := { shot.context with skipDialog := true } }

theorem accounts_of_play_shots :
    let played := Session.play ({ dice := { queue := [40, 250] } } : Session ScriptedDice) 0
      [shot, shot, hastyShot]
    shot.IsCancelled 1 ∧
    played.2.1.log[1]? = some (hastyShot.prepared.result 100) ∧
    played.2.1.log.map (·.roll.toInt) = [40, 100] ∧
    played.2.1.dice.remaining = 0 ∧
    played.2.2 = 2 := by
  intro played
  obtain ⟨_, hcalls, _, hlog, hdice⟩ :=
    accounts_of_play [40, 250] (.ofSeed 0) 0 [shot, shot, hastyShot]
  have hrolls : played.2.1.log.map (·.roll.toInt) = [40, 100] := by decide +kernel
  have hlength : played.2.1.log.length = 2 := by
    rw [← List.length_map (·.roll.toInt), hrolls]
    rfl
  refine ⟨(hcalls shot { dice := { queue := [] } } 1).1.1 rfl, (hlog 1 250 rfl).1, hrolls, ?_,
    by decide +kernel⟩
  rw [hdice, hlength]
  rfl

end Percentile
