import Percentile.Modifier

/-!
# Exclusion groups

Modifiers of one *exclusion group* do not add up. Of its bonuses the largest survives, of its
penalties the one with the largest magnitude, and a bonus and a penalty do not compete with each
other. Among equal candidates the first one survives. A modifier of value zero survives only if it
is alone in its group. Modifiers without a group always survive.

**One pass, one filter.** `Contest.ofModifiers` goes through the list once and keeps for each group
how many members it has and where its two winners stand. `Modifier.exclude` then keeps the
modifiers that stand there, in their order.
-/

namespace Percentile

/-- A candidate that wins its contest so far. -/
structure Winner where
  /-- Where the modifier stands in the list. -/
  position : Nat
  value : Score
  deriving DecidableEq

/-- What has been seen of an exclusion group. -/
structure Contest where
  members : Nat := 0
  /-- The first of the largest bonuses. -/
  bonus : Option Winner := none
  /-- The first of the penalties of largest magnitude. -/
  penalty : Option Winner := none
  deriving DecidableEq

namespace Contest

/-- Let one more member take part. It replaces a winner only if it is strictly better. -/
def enter (c : Contest) (candidate : Winner) : Contest where
  members := c.members + 1
  bonus :=
    if 0 < candidate.value ∧ c.bonus.all (·.value < candidate.value) then some candidate
    else c.bonus
  penalty :=
    if candidate.value < 0 ∧ c.penalty.all (candidate.value < ·.value) then some candidate
    else c.penalty

/-- Let a modifier take part in the contest of its group, if it has one. -/
def enroll (contests : Table Contest) (entrant : Modifier × Nat) : Table Contest :=
  match entrant.1.exclusionGroup with
  | none => contests
  | some group => contests.put group fun c => (c.getD {}).enter ⟨entrant.2, entrant.1.value⟩

/-- The contests of all groups of a list of modifiers. -/
def ofModifiers (ms : List Modifier) : Table Contest := ms.zipIdx.foldl enroll ∅

/-- Whether a member of the group survives. -/
def keeps (c : Contest) (m : Modifier) (position : Nat) : Bool :=
  if m.value = 0 then c.members == 1
  else c.bonus.any (·.position == position) || c.penalty.any (·.position == position)

end Contest

/-- Whether a modifier survives the contests of a list. -/
def Modifier.survives (contests : Table Contest) (entrant : Modifier × Nat) : Bool :=
  match entrant.1.exclusionGroup with
  | none => true
  | some group => (contests.find? group).any (·.keeps entrant.1 entrant.2)

/-- The modifiers that survive exclusion, in their order. -/
def Modifier.exclude (ms : List Modifier) : List Modifier :=
  (ms.zipIdx.filter (survives (Contest.ofModifiers ms))).map (·.1)

end Percentile
