import Percentile.Reader.Record

/-!
# Outcomes

A check rolls a percentile die against a target and succeeds if the roll is at most the target. A
natural 1 always succeeds and a natural 100 always fails. The *degrees* of the outcome count one for
the bare result and one more for every full ten points between roll and target.

| roll | target | outcome |
|------|--------|---------|
| 35 | 45 | success, 2 degrees |
| 45 | 45 | success, 1 degree |
| 46 | 45 | failure, 1 degree |
| 67 | 45 | failure, 3 degrees |

Adjustments move the degrees, never below zero, and never turn a success into a failure or back.
-/

namespace Percentile

/-- Whether a check succeeded, and by how much. -/
structure Outcome where
  /-- Whether it succeeded. -/
  success : Bool
  /-- The degrees of success, or of failure. -/
  degrees : Score
  deriving DecidableEq

namespace Outcome

/-- The roll that always succeeds. -/
def naturalSuccess : Score := 1

/-- The roll that always fails. -/
def naturalFailure : Score := 100

/-- Whether a roll against a target succeeds. -/
def succeeds (roll target : Score) : Bool :=
  if roll = naturalSuccess then true
  else if roll = naturalFailure then false
  else roll ≤ target

/-- The outcome of a roll against a target. -/
def ofRoll (roll target : Score) : Outcome :=
  let success := succeeds roll target
  let margin := if success then target - roll else roll - target
  { success, degrees := 1 + (max margin 0).divFloor 10 }

/-- The degrees with a minus sign for a failure. Opposed checks compare these. -/
def signed (o : Outcome) : Score := if o.success then o.degrees else o.degrees.opposite

/-- Move the degrees by an amount, but not below zero. -/
def adjusted (o : Outcome) (amount : Score) : Outcome :=
  { o with degrees := max (o.degrees + amount) 0 }

def record : Record Outcome :=
  Outcome.mk <$> .required "success" .bool <*> .required "degrees" .score

def read : Reader Outcome := record.read "DegreeOutcome"

end Outcome

end Percentile
