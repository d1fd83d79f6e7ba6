import Percentile.RollOptions

/-!
# Statements

A *statement* is a condition on roll options. Content writes it as JSON:

* a string demands that the tag is present, and `not:` before a tag that it is absent,
* an object with the one field `and` or `or` and an array under it joins statements,
* an object with the one field `not` denies the statement under it,
* anything else is *malformed*, also an array, and is kept as it is.

**Meaning.** `Statement.holds` evaluates the connectives as usual. A malformed statement does not
hold, but what is built around it could, so a condition is only ever tested together with
`Statement.wellFormed`, which no statement with a malformed part passes.
-/

namespace Percentile

/-- A condition on roll options. -/
inductive Statement where
  /-- The tag is present. -/
  | atom (tag : String)
  /-- The tag is absent. -/
  | negated (tag : String)
  /-- All of the statements hold. -/
  | all (items : List Statement)
  /-- One of the statements holds. -/
  | any (items : List Statement)
  /-- The statement does not hold. -/
  | not (inner : Statement)
  /-- A value that is no statement. -/
  | malformed (raw : Json)
  deriving Inhabited

namespace Statement

/-- The tag after `not:`, if the text starts with it. -/
def denied? (text : String) : Option String :=
  match text.toList with
  | 'n' :: 'o' :: 't' :: ':' :: tag => some (String.ofList tag)
  | _ => none

/-- The statement of a string. -/
def ofText (text : String) : Statement :=
  match denied? text with
  | some tag => .negated tag
  | none => .atom text

mutual

/-- The statement of a JSON value. -/
def ofJson : Json → Statement
  | .string text => ofText text
  | .object [("and", .array items)] => .all (ofItems items)
  | .object [("or", .array items)] => .any (ofItems items)
  | .object [("not", inner)] => .not (ofJson inner)
  | raw => .malformed raw

/-- The statements of the items of an array. -/
def ofItems : List Json → List Statement
  | [] => []
  | item :: rest => ofJson item :: ofItems rest

end

mutual

/-- The JSON value of a statement. -/
def toJson : Statement → Json
  | .atom tag => .string tag
  | .negated tag => .string ("not:" ++ tag)
  | .all items => .object [("and", .array (toItems items))]
  | .any items => .object [("or", .array (toItems items))]
  | .not inner => .object [("not", toJson inner)]
  | .malformed raw => raw

/-- The JSON values of statements. -/
def toItems : List Statement → List Json
  | [] => []
  | s :: rest => toJson s :: toItems rest

end

mutual

/-- Whether no part is malformed. -/
def wellFormed : Statement → Bool
  | .atom _ | .negated _ => true
  | .all items | .any items => allWellFormed items
  | .not inner => wellFormed inner
  | .malformed _ => false

/-- Whether no part of any of the statements is malformed. -/
def allWellFormed : List Statement → Bool
  | [] => true
  | s :: rest => wellFormed s && allWellFormed rest

end

mutual

/-- Whether the statement holds for a set of roll options. A malformed one never does. -/
def holds (options : RollOptions) : Statement → Bool
  | .atom tag => options.contains tag
  | .negated tag => !options.contains tag
  | .all items => allHold options items
  | .any items => anyHolds options items
  | .not inner => !holds options inner
  | .malformed _ => false

/-- Whether all of the statements hold. -/
def allHold (options : RollOptions) : List Statement → Bool
  | [] => true
  | s :: rest => holds options s && allHold options rest

/-- Whether one of the statements holds. -/
def anyHolds (options : RollOptions) : List Statement → Bool
  | [] => false
  | s :: rest => holds options s || anyHolds options rest

end

/-! ## The lists of parts -/

theorem ofItems_eq_map (items : List Json) : ofItems items = items.map ofJson := by
  induction items with
  | nil => rfl
  | cons item rest ih => simp [ofItems, ih]

theorem toItems_eq_map (items : List Statement) : toItems items = items.map toJson := by
  induction items with
  | nil => rfl
  | cons s rest ih => simp [toItems, ih]

theorem allWellFormed_eq_all (items : List Statement) :
    allWellFormed items = items.all wellFormed := by
  induction items with
  | nil => rfl
  | cons s rest ih => simp [allWellFormed, ih]

theorem allHold_eq_all (options : RollOptions) (items : List Statement) :
    allHold options items = items.all (holds options) := by
  induction items with
  | nil => rfl
  | cons s rest ih => simp [allHold, ih]

theorem anyHolds_eq_any (options : RollOptions) (items : List Statement) :
    anyHolds options items = items.any (holds options) := by
  induction items with
  | nil => rfl
  | cons s rest ih => simp [anyHolds, ih]

/-! ## Equality -/

mutual

private def decEqStatement : (a b : Statement) → Decidable (a = b)
  | .atom a, .atom b => decidable_of_iff (a = b) (by simp)
  | .negated a, .negated b => decidable_of_iff (a = b) (by simp)
  | .all a, .all b => let := decEqStatements a b; decidable_of_iff (a = b) (by simp)
  | .any a, .any b => let := decEqStatements a b; decidable_of_iff (a = b) (by simp)
  | .not a, .not b => let := decEqStatement a b; decidable_of_iff (a = b) (by simp)
  | .malformed a, .malformed b => decidable_of_iff (a = b) (by simp)
  | .atom _, .negated _ | .atom _, .all _ | .atom _, .any _ | .atom _, .not _
  | .atom _, .malformed _ | .negated _, .atom _ | .negated _, .all _ | .negated _, .any _
  | .negated _, .not _ | .negated _, .malformed _ | .all _, .atom _ | .all _, .negated _
  | .all _, .any _ | .all _, .not _ | .all _, .malformed _ | .any _, .atom _
  | .any _, .negated _ | .any _, .all _ | .any _, .not _ | .any _, .malformed _
  | .not _, .atom _ | .not _, .negated _ | .not _, .all _ | .not _, .any _
  | .not _, .malformed _ | .malformed _, .atom _ | .malformed _, .negated _
  | .malformed _, .all _ | .malformed _, .any _ | .malformed _, .not _ => isFalse nofun

private def decEqStatements : (a b : List Statement) → Decidable (a = b)
  | [], [] => isTrue rfl
  | [], _ :: _ | _ :: _, [] => isFalse nofun
  | a :: as, b :: bs =>
    let := decEqStatement a b
    let := decEqStatements as bs
    decidable_of_iff (a = b ∧ as = bs) (by simp)

end

instance : DecidableEq Statement := decEqStatement

end Statement

end Percentile
