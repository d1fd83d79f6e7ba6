import Percentile.Json.Basic

/-!
# JSON drafts

A *draft* is a JSON document as it is written: entries in the order of the text with their
repetitions, and the places where the text stops being JSON. What a draft means depends on what it
is read as, because a reader walks it in the order of the text and stops at the first thing it
cannot take. A flaw behind that place is never seen, and neither is one inside a value that is
skipped if only reading, not grammar, minds it.

**Three readings of one draft.** `Draft.sound` says that a draft can be skipped, `Draft.value?`
reads it as any JSON value at all, and `Percentile.Reader` reads it as a value of a given type. The
first two are the coarsest cases, and they differ on a number out of range, half a surrogate pair
and nesting beyond the limit, which can be skipped and not read.

**A finished value is a draft too** (`Draft.ofValue`), with its entries in ascending order and no
flaw. `Draft.unfold` shows one level of it.
-/

namespace Percentile

/-- How a list of items or entries comes to its end. -/
inductive Ending where
  /-- By its closing bracket. -/
  | closed
  /-- By something else, or by the end of the text. -/
  | cut
  deriving DecidableEq

/-- A JSON document as written. -/
inductive Draft where
  /-- A place where a value should start and none does. -/
  | missing
  | null
  | bool (b : Bool)
  /-- A number, or a literal beyond the range of numbers. -/
  | number (n : Option Number)
  /-- A string, or a literal with half of a surrogate pair. -/
  | string (s : Option String)
  | array (items : List Draft) (ending : Ending)
  | object (entries : List (Option String × Draft)) (ending : Ending)
  /-- An array or object that is nested too deeply to be read, and whether it can be skipped. -/
  | deep (sound : Bool)
  /-- A finished value. -/
  | ofValue (j : Json)
  deriving Inhabited

namespace Draft

/-- The nesting limit: containers inside this many others cannot be read. -/
def nestingLimit : Nat := 127

mutual

/-- Whether the draft is grammatical, so that it can be skipped. -/
def sound : Draft → Bool
  | .missing => false
  | .null | .bool _ | .number _ | .string _ | .ofValue _ => true
  | .array items ending => ending == .closed && soundItems items
  | .object entries ending => ending == .closed && soundEntries entries
  | .deep s => s

/-- Whether all items can be skipped. -/
def soundItems : List Draft → Bool
  | [] => true
  | d :: rest => d.sound && soundItems rest

/-- Whether all entries can be skipped. -/
def soundEntries : List (Option String × Draft) → Bool
  | [] => true
  | (_, d) :: rest => d.sound && soundEntries rest

end

mutual

/-- The JSON value of the draft, if it has no flaw. Of several entries under one key the last
counts. -/
def value? : Draft → Option Json
  | .missing | .deep _ => none
  | .null => some .null
  | .bool b => some (.bool b)
  | .number n => n.map .number
  | .string s => s.map .string
  | .array items ending => if ending = .closed then (itemValues? items).map .array else none
  | .object entries ending =>
    if ending = .closed then (entryValues? entries).map Json.ofFields else none
  | .ofValue j => some j

/-- The values of items. -/
def itemValues? : List Draft → Option (List Json)
  | [] => some []
  | d :: rest => d.value?.bind fun j => (itemValues? rest).map (j :: ·)

/-- The values of entries with their keys. -/
def entryValues? : List (Option String × Draft) → Option (List (String × Json))
  | [] => some []
  | (key, d) :: rest =>
    key.bind fun k => d.value?.bind fun j => (entryValues? rest).map ((k, j) :: ·)

end

/-- Show one level of a finished value. -/
def unfold : Draft → Draft
  | .ofValue .null => .null
  | .ofValue (.bool b) => .bool b
  | .ofValue (.number n) => .number (some n)
  | .ofValue (.string s) => .string (some s)
  | .ofValue (.array items) => .array (items.map .ofValue) .closed
  | .ofValue (.object fields) => .object (fields.map fun f => (some f.1, .ofValue f.2)) .closed
  | d => d

end Draft

end Percentile
