import Percentile.Json.Document
import Percentile.Text.Quoted

/-!
# Readers

A *reader* takes the draft of a JSON document to a value of some type, or says why it cannot. It
walks the draft in the order in which it is written, and the first thing that it cannot take decides
the error.

**Causes.** `ReadError` lists the causes, each with all that its wording depends on: a value of the
wrong shape with what was found and what was expected, a name with those it could have been. The
wording itself is given for three of them (`ReadError.message?`). In a text a cause also has a
*category*: `syntactic` if a reader of tokens stumbled, `data` if it got a complete value of the
wrong shape. Where in a text the reader stopped is left out.

**Two uses.** `Reader.readValue` reads a finished value. `Reader.readText` reads a text, and after a
success refuses anything but white space behind the value.
-/

namespace Percentile

/-- What a reader found in place of what it expected. -/
inductive Found where
  | null
  | bool (b : Bool)
  | number (n : Number)
  | string (s : String)
  | array
  | object
  /-- An array or object that is nested too deeply to be read. -/
  | deep
  /-- An array that ends before its item at this position. -/
  | items (position : Nat)
  deriving DecidableEq, Repr

/-- Why a document cannot be read as a value of some type. -/
inductive ReadError where
  /-- The text stops being JSON. -/
  | notJson
  /-- A value of another kind, or a number out of range, or too few items. -/
  | wrongShape (found : Found) (expected : String)
  /-- A value has none of the forms of a type. -/
  | unmatched (type : String)
  /-- An array has more items than there are fields. -/
  | surplusItem (items : Nat)
  /-- A name has to stand here, and the value is neither a string nor an object. -/
  | notAName (found : Found)
  /-- An object has a field twice. -/
  | repeatedField (name : String)
  /-- An object lacks a field. -/
  | missingField (name : String)
  /-- A name is not among those expected. -/
  | unknownName (name : String) (expected : List String)
  /-- A text is no rule value. -/
  | notRuleValue (text : String)
  deriving DecidableEq, Repr

namespace ReadError

/-- The two kinds of error that a reader of text tells apart. -/
inductive Category where
  /-- The text is no JSON, or not laid out as it has to be. -/
  | syntactic
  /-- The text is JSON of the wrong shape. -/
  | data
  deriving DecidableEq, Repr

/-- The category of a cause, where a text is read. -/
def category : ReadError → Category
  | .notJson | .surplusItem _ | .notAName _ => .syntactic
  | .wrongShape .. | .unmatched _ | .repeatedField _ | .missingField _ | .unknownName ..
  | .notRuleValue _ => .data

/-- The message of a cause, for the three causes that are worded here. -/
def message? : ReadError → Option String
  | .missingField name => some s!"missing field `{name}`"
  | .unknownName name expected =>
    let names := " or ".intercalate (expected.map fun e => s!"`{e}`")
    some s!"unknown variant `{name}`, expected {names}"
  | .notRuleValue text => some ("expected a number or \"rating\", got " ++ Text.quoted text)
  | _ => none

end ReadError

/-- A reader of values of type `α`. -/
abbrev Reader (α : Type) := Draft → Except ReadError α

namespace Draft

/-- What a reader finds that expects something else. A literal is read to its end first, so one with
a flaw is nothing. -/
def found? (d : Draft) : Option Found :=
  match d.unfold with
  | .null => some .null
  | .bool b => some (.bool b)
  | .number n => n.map .number
  | .string s => s.map .string
  | .array .. => some .array
  | .object .. => some .object
  | .deep _ => some .deep
  | .missing | .ofValue _ => none

/-- The error of a value that is of another kind than the reader expects. -/
def mismatch (d : Draft) (expected : String) : ReadError :=
  match d.found? with
  | some found => .wrongShape found expected
  | none => .notJson

/-- Whether the draft is a value that was read before, so that its size is known. -/
def finished : Draft → Bool
  | .ofValue _ => true
  | _ => false

end Draft

namespace Reader

variable {α : Type}

def readValue (r : Reader α) (j : Json) : Except ReadError α := r (.ofValue j)

/-- Read a text. -/
def readText (r : Reader α) (text : String) : Except ReadError α :=
  let document := Document.ofText text
  match r document.root with
  | .ok a => if document.trailing then .error .notJson else .ok a
  | .error e => .error e

def any : Reader Json := fun d =>
  match d.value? with
  | some j => .ok j
  | none => .error .notJson

def text : Reader String := fun d =>
  match d.unfold with
  | .string (some s) => .ok s
  | d => .error (d.mismatch "a string")

def bool : Reader Bool := fun d =>
  match d.unfold with
  | .bool b => .ok b
  | d => .error (d.mismatch "a boolean")

/-- Read a whole number that is a score. -/
def score : Reader Score := fun d =>
  match d.unfold with
  | .number (some (.whole n)) =>
    match Score.ofInt? n with
    | some a => .ok a
    | none => .error (.wrongShape (.number (.whole n)) "i64")
  | d => .error (d.mismatch "i64")

/-- Read a whole number that is an unsigned 32-bit word. -/
def word : Reader UInt32 := fun d =>
  match d.unfold with
  | .number (some (.whole n)) =>
    if 0 ≤ n ∧ n < 4294967296 then .ok (UInt32.ofNat n.toNat)
    else .error (.wrongShape (.number (.whole n)) "u32")
  | d => .error (d.mismatch "u32")

/-- Read null as nothing, and all else with a reader. -/
def option (r : Reader α) : Reader (Option α) := fun d =>
  match d.unfold with
  | .null => .ok none
  | _ => (r d).map some

/-- Read a value of a type with several forms, each with its reader. The first reader that takes the
value counts, and the whole of it has to be JSON before any of them looks at its shape. -/
def firstOf (type : String) (readers : List (Reader α)) : Reader α := fun d => do
  let _ ← any d
  match readers.findSome? fun r => (r d).toOption with
  | some a => .ok a
  | none => .error (.unmatched type)

/-- Read the items of an array one after the other. -/
def items (r : Reader α) : List Draft → Except ReadError (List α)
  | [] => .ok []
  | d :: rest => do
    let a ← r d
    let as ← items r rest
    return a :: as

/-- Read an array of any length. -/
def list (r : Reader α) : Reader (List α) := fun d =>
  match d.unfold with
  | .array ds ending => do
    let as ← items r ds
    if ending = .closed then .ok as else .error .notJson
  | d => .error (d.mismatch "a sequence")

/-- Read the entries of an object one after the other. -/
def entries (r : Reader α) : List (Option String × Draft) → Except ReadError (Entries α)
  | [] => .ok []
  | (none, _) :: _ => .error .notJson
  | (some key, d) :: rest => do
    let a ← r d
    let as ← entries r rest
    return (key, a) :: as

/-- Read an object of any keys. Of several entries under one key the last counts. -/
def table (r : Reader α) : Reader (Table α) := fun d =>
  match d.unfold with
  | .object ds ending => do
    let as ← entries r ds
    if ending = .closed then .ok (Table.ofEntries as) else .error .notJson
  | d => .error (d.mismatch "a map")

/-- What one of the given names stands for. -/
def named (names : List (String × α)) (s : String) : Except ReadError α :=
  match Entries.find? s names with
  | some a => .ok a
  | none => .error (.unknownName s (names.map (·.1)))

/-- Read one of the given names, either as a string or as the key of an object whose one value is
null. The entries of a finished object are counted first. Those of a text are taken as they come:
the name, then the null, then the end. -/
def name (names : List (String × α)) : Reader α := fun d =>
  match d.unfold with
  | .string (some s) => named names s
  | .object entries ending =>
    if d.finished && entries.length != 1 then
      .error (.wrongShape .object "map with a single key")
    else
      match entries with
      | (some s, d) :: rest => do
        let a ← named names s
        match d.unfold with
        | .null => if rest.isEmpty && ending == .closed then .ok a else .error .notJson
        | d => .error (d.mismatch "unit")
      | _ => .error .notJson
  | _ =>
    match d.found? with
    | some found =>
      .error (if d.finished then .wrongShape found "string or map" else .notAName found)
    | none => .error .notJson

end Reader

end Percentile
