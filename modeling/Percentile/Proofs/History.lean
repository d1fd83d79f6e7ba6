import Percentile.Actor
import Percentile.Proofs.Preparation

/-!
# Nothing accumulates between preparations

An actor lives through preparations and changes of its items, in any order and with any registries.
This file says what its synthetics are afterwards.

**A pass only appends** (`prepare_eq_append`, `prepare_append`). What a preparation pass writes does
not depend on what is there, and what it writes for two lists of items is what it writes for each of
them.

**A history** is a list of events. Some of them discard the synthetics, some run a pass, and a whole
preparation does both. One event adds at most one contribution, after possibly discarding all older
ones (`synthetics_undergo`).

**Theorem (`synthetics_after_history`).** The synthetics of an actor are the sum of what the passes
since the last discarding event contribute, each computed from the items owned at its time. After a
whole preparation, that is one pass.
-/

namespace Percentile

namespace Synthetics

theorem total_append (parts parts' : List Synthetics) :
    total (parts ++ parts') = total parts ++ total parts' := by
  induction parts with
  | nil => exact (empty_append _).symm
  | cons s rest ih => rw [List.cons_append, total_cons, total_cons, ih, append_assoc]

end Synthetics

/-! ## Passes -/

namespace Registry

variable (r : Registry)

theorem outcomes_append (xs ys : List Item) :
    r.outcomes (xs ++ ys) = r.outcomes xs ++ r.outcomes ys :=
  List.flatMap_append

/-- **A pass appends to what is there** what it writes into empty synthetics. -/
theorem prepare_eq_append (items : List Item) (s : Synthetics) :
    (r.prepare items s).1 = s ++ (r.prepare items ∅).1 := by
  rw [prepare_fst, prepare_fst, Synthetics.empty_append]

/-- A pass over two lists of items appends what it writes for each of them. -/
theorem prepare_append (xs ys : List Item) :
    (r.prepare (xs ++ ys) ∅).1 = (r.prepare xs ∅).1 ++ (r.prepare ys ∅).1 := by
  simp only [prepare_fst, Synthetics.empty_append, outcomes_append, List.map_append,
    Synthetics.total_append]

end Registry

/-! ## Histories -/

namespace Actor

/-- What can happen to an actor between two checks. -/
inductive Event where
  /-- The first phase of a preparation. -/
  | discard
  /-- The second phase of a preparation. -/
  | run (r : Registry)
  /-- Both phases of a preparation. -/
  | prepare (r : Registry)
  /-- Any change of the items. -/
  | edit (f : List Item → List Item)

namespace Event

/-- Whether the event discards the synthetics that it finds. -/
def discards : Event → Bool
  | .discard | .prepare _ => true
  | .run _ | .edit _ => false

/-- The registry of the pass that the event runs, if it runs one. -/
def pass? : Event → Option Registry
  | .run r | .prepare r => some r
  | .discard | .edit _ => none

/-- What the pass of the event, if it runs one, writes for a list of items. -/
def contribution (e : Event) (items : List Item) : List Synthetics :=
  (e.pass?.map fun r => (r.prepare items ∅).1).toList

end Event

/-- Let an event happen. -/
def undergo (a : Actor) : Event → Actor
  | .discard => a.prepareBaseData
  | .run r => (a.prepareEmbeddedRules r).1
  | .prepare r => (a.prepareData r).1
  | .edit f => { a with items := f a.items }

/-- Let events happen one after the other. -/
def after (a : Actor) (history : List Event) : Actor := history.foldl undergo a

/-- The contributions of a history that no later event discards, in their order. Each is computed
from the items that the actor owns when its pass runs. -/
def standing (a : Actor) : List Event → List Synthetics
  | [] => []
  | e :: later =>
    (if later.any (·.discards) then [] else e.contribution a.items) ++ (a.undergo e).standing later

/-- **One event** discards the synthetics or leaves them, and adds its contribution. -/
theorem synthetics_undergo (a : Actor) (e : Event) :
    (a.undergo e).synthetics =
      (if e.discards then ∅ else a.synthetics) ++ Synthetics.total (e.contribution a.items) := by
  cases e with
  | discard => exact (Synthetics.append_empty ∅).symm
  | run r =>
    show (r.prepare a.items a.synthetics).1 = a.synthetics ++ ((r.prepare a.items ∅).1 ++ ∅)
    rw [Synthetics.append_empty]
    exact r.prepare_eq_append a.items a.synthetics
  | prepare r =>
    show (r.prepare a.items ∅).1 = ∅ ++ ((r.prepare a.items ∅).1 ++ ∅)
    rw [Synthetics.append_empty, Synthetics.empty_append]
  | edit f => exact (Synthetics.append_empty a.synthetics).symm

/-- **All events.** What is left of the old synthetics, and the contributions that stand. -/
theorem synthetics_after (a : Actor) (history : List Event) :
    (a.after history).synthetics =
      (if history.any (·.discards) then ∅ else a.synthetics) ++
        Synthetics.total (a.standing history) := by
  induction history generalizing a with
  | nil => exact (Synthetics.append_empty a.synthetics).symm
  | cons e later ih =>
    show ((a.undergo e).after later).synthetics = _
    rw [ih, standing, Synthetics.total_append]
    by_cases hlater : later.any (·.discards) = true
    · -- A later event discards the contribution of `e` and all before it.
      have hall : (e :: later).any (·.discards) = true := by simp [hlater]
      rw [if_pos hlater, if_pos hlater, if_pos hall, Synthetics.total_nil,
        Synthetics.empty_append, Synthetics.empty_append]
    · have hall : (e :: later).any (·.discards) = e.discards := by simp [hlater]
      rw [if_neg hlater, if_neg hlater, hall, synthetics_undergo, Synthetics.append_assoc]

/-- **Nothing accumulates between preparations.** A pass appends to any synthetics what it writes
into empty ones, item list after item list. So after any history the synthetics are the sum of the
contributions that no later event has discarded, and after a whole preparation they are what one
pass over the items owned then writes into empty synthetics. -/
theorem synthetics_after_history :
    (∀ (r : Registry) (items : List Item) (s : Synthetics),
      (r.prepare items s).1 = s ++ (r.prepare items ∅).1) ∧
    (∀ (r : Registry) (xs ys : List Item),
      (r.prepare (xs ++ ys) ∅).1 = (r.prepare xs ∅).1 ++ (r.prepare ys ∅).1) ∧
    (∀ (a : Actor) (history : List Event), (a.after history).synthetics =
      (if history.any (·.discards) then ∅ else a.synthetics) ++
        Synthetics.total (a.standing history)) ∧
    ∀ (a : Actor) (history : List Event) (r : Registry),
      (a.after (history ++ [.prepare r])).synthetics =
        (r.prepare (a.after history).items ∅).1 := by
  refine ⟨Registry.prepare_eq_append, Registry.prepare_append, synthetics_after, ?_⟩
  intro a history r
  have hlast : a.after (history ++ [.prepare r]) = (a.after history).undergo (.prepare r) := by
    rw [after, List.foldl_append]
    rfl
  rw [hlast]
  rfl

end Actor

end Percentile
