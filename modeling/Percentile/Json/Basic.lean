import Percentile.Binary64
import Percentile.Score
import Percentile.Table

/-!
# JSON values

Content, requests and saved data are JSON. A value holds what its text means and nothing of how it
was laid out: an object is a list of entries in ascending order of their keys, as `Json.ofFields`
makes it, and a number is either a whole number or a binary64 number, never both. `2` and `2.0` are
different values, because only the first can be read as a score.
-/

namespace Percentile

/-- A JSON number: a whole number as written without fraction or exponent, or a binary64 number. -/
inductive Number where
  /-- A whole number. Text gives those of a signed or an unsigned 64-bit word. -/
  | whole (n : Int)
  /-- Any other number. -/
  | real (x : Binary64)
  deriving DecidableEq, Repr

/-- A JSON value. -/
inductive Json where
  | null
  | bool (b : Bool)
  | number (n : Number)
  | string (s : String)
  | array (items : List Json)
  | object (fields : List (String × Json))
  deriving Inhabited, Repr

namespace Json

/-- The whole number `n`. -/
def int (n : Int) : Json := .number (.whole n)

/-- A score as a whole number. -/
def score (a : Score) : Json := int a.toInt

/-- The object with the given fields, in ascending order of their keys. -/
def ofFields (fields : Entries Json) : Json := .object fields.sorted

/-- The object of a table. -/
def ofTable (t : Table Json) : Json := .object t.entries

/-- The value under a key of an object. Other values have no fields. -/
def field? (key : String) : Json → Option Json
  | .object fields => Entries.find? key fields
  | _ => none

def string? : Json → Option String
  | .string s => some s
  | _ => none

/-- The score of a whole number that is one. -/
def score? : Json → Option Score
  | .number (.whole n) => Score.ofInt? n
  | _ => none

@[simp] theorem score?_score (a : Score) : (score a).score? = some a :=
  Score.ofInt?_eq_some_iff.2 rfl

theorem score?_eq_some_iff {j : Json} {a : Score} : j.score? = some a ↔ j = score a := by
  constructor
  · intro h
    unfold score? at h
    split at h
    · rename_i n
      rw [Score.ofInt?_eq_some_iff] at h
      rw [← h]; rfl
    · exact absurd h (by simp)
  · rintro rfl
    exact score?_score a

/-! ## Equality -/

mutual

/-- Equality of values is decided node by node. -/
private def decEqJson : (a b : Json) → Decidable (a = b)
  | .null, .null => isTrue rfl
  | .bool a, .bool b => decidable_of_iff (a = b) (by simp)
  | .number a, .number b => decidable_of_iff (a = b) (by simp)
  | .string a, .string b => decidable_of_iff (a = b) (by simp)
  | .array a, .array b => let := decEqItems a b; decidable_of_iff (a = b) (by simp)
  | .object a, .object b => let := decEqFields a b; decidable_of_iff (a = b) (by simp)
  | .null, .bool _ | .null, .number _ | .null, .string _ | .null, .array _ | .null, .object _
  | .bool _, .null | .bool _, .number _ | .bool _, .string _ | .bool _, .array _
  | .bool _, .object _ | .number _, .null | .number _, .bool _ | .number _, .string _
  | .number _, .array _ | .number _, .object _ | .string _, .null | .string _, .bool _
  | .string _, .number _ | .string _, .array _ | .string _, .object _ | .array _, .null
  | .array _, .bool _ | .array _, .number _ | .array _, .string _ | .array _, .object _
  | .object _, .null | .object _, .bool _ | .object _, .number _ | .object _, .string _
  | .object _, .array _ => isFalse nofun

private def decEqItems : (a b : List Json) → Decidable (a = b)
  | [], [] => isTrue rfl
  | [], _ :: _ | _ :: _, [] => isFalse nofun
  | a :: as, b :: bs =>
    let := decEqJson a b
    let := decEqItems as bs
    decidable_of_iff (a = b ∧ as = bs) (by simp)

private def decEqFields : (a b : List (String × Json)) → Decidable (a = b)
  | [], [] => isTrue rfl
  | [], _ :: _ | _ :: _, [] => isFalse nofun
  | (k, a) :: as, (l, b) :: bs =>
    let := decEqJson a b
    let := decEqFields as bs
    decidable_of_iff ((k = l ∧ a = b) ∧ as = bs) (by simp)

end

instance : DecidableEq Json := decEqJson

end Json

end Percentile
