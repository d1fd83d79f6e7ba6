import Percentile.Modifier.Exclusion

/-!
# Resolution of modifiers

A check has one total: of its modifiers, those that are switched on and whose predicate passes go
through exclusion, the values of the survivors are added up from the left, and the sum is capped to
the same magnitude on both sides.
-/

namespace Percentile

/-- What a list of modifiers comes to. -/
structure Resolution where
  /-- The capped sum of the applied values. -/
  total : Score
  /-- The modifiers that count, in their order. -/
  applied : List Modifier
  all : List Modifier
  deriving DecidableEq

namespace Resolution

/-- Resolve a list of modifiers under a set of roll options. -/
def resolve (ms : List Modifier) (options : RollOptions) (cap : Score) : Resolution :=
  let applied := Modifier.exclude (ms.filter (·.isActive options))
  { total := .within cap (.sum (applied.map (·.value))), applied, all := ms }

/-- The sum of the applied values before the cap. -/
def uncappedTotal (r : Resolution) : Score := .sum (r.applied.map (·.value))

/-- Whether the cap changed the total. -/
def wasCapped (r : Resolution) : Bool := r.uncappedTotal != r.total

def record : Record Resolution :=
  Resolution.mk
    <$> .required "total" .score
    <*> .required "applied" (.list Modifier.read)
    <*> .required "all" (.list Modifier.read)

def read : Reader Resolution := record.read "ModifierResolution"

def toJson (r : Resolution) : Json := .ofFields
  [("total", .score r.total),
   ("applied", .array (r.applied.map Modifier.toJson)),
   ("all", .array (r.all.map Modifier.toJson))]

end Resolution

end Percentile
