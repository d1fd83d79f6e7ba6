import Percentile.Predicate.Statement

/-!
# Predicates

A *predicate* is a list of statements, all of which have to hold. It gates modifiers and adjustments
on roll options.

**Fail closed.** A malformed statement anywhere, at any depth and under any number of denials, makes
the whole predicate fail for every set of options. The empty predicate passes for every set.
-/

namespace Percentile

/-- A list of statements, all of which have to hold. -/
structure Predicate where
  statements : List Statement
  deriving DecidableEq

namespace Predicate

/-- The empty predicate, which always passes. -/
def always : Predicate := ⟨[]⟩

instance : Inhabited Predicate := ⟨always⟩

/-- The predicate that demands one tag, whatever its text. -/
def atom (tag : String) : Predicate := ⟨[.atom tag]⟩

def and (p : Predicate) (s : Statement) : Predicate := ⟨p.statements ++ [s]⟩

def isEmpty (p : Predicate) : Bool := p.statements.isEmpty

/-- The predicate of a JSON value: null is the empty one, an array lists the statements, and
anything else is one statement. -/
def ofJson : Json → Predicate
  | .null => always
  | .array items => ⟨items.map Statement.ofJson⟩
  | raw => ⟨[Statement.ofJson raw]⟩

/-- The predicate of a field that may be absent. -/
def ofJson? (raw : Option Json) : Predicate := raw.elim always ofJson

/-- The JSON value of a predicate, always an array. -/
def toJson (p : Predicate) : Json := .array (p.statements.map Statement.toJson)

/-- Read a predicate, which any JSON value is. -/
def read : Reader Predicate := fun d => (Reader.any d).map ofJson

/-- Whether the predicate passes for a set of roll options. -/
def test (p : Predicate) (options : RollOptions) : Bool :=
  p.statements.all Statement.wellFormed && p.statements.all (Statement.holds options)

@[simp] theorem test_always (options : RollOptions) : always.test options = true := rfl

end Predicate

end Percentile
