import Percentile.Reader.Basic

/-!
# Records

A *record* describes how a structure is read field by field. Its fields have an order, that of the
declaration, and each has a name, a reader, and possibly a default for the case that it is absent.

**As an object.** The entries are taken in the order in which they stand. A known field is read, a
second entry for it is an error before its value is looked at, and an unknown one is skipped. Only
when all entries are fine, the first absent field without a default is reported.

**As an array.** The items are the fields in their order. Fields without an item take their
defaults, and items without a field are an error.

Records are put together with `<$>` and `<*>`, from the constructor of the structure and one
`Record.required` or `Record.optional` for each field. The name of the structure matters to errors
alone, so it is given when the record is read.
-/

namespace Percentile

/-- What reading an object or array has to know of a field. -/
structure Field where
  /-- The key of the field in an object. -/
  name : String
  /-- Whether the field has no default. -/
  required : Bool
  /-- Read a value of the field and tell only whether it can be read. -/
  check : Draft → Except ReadError Unit

/-- How a structure of type `α` is read field by field. -/
structure Record (α : Type) where
  fields : List Field
  /-- The structure, from the drafts of its fields by name. -/
  build : (String → Option Draft) → Except ReadError α

namespace Record

variable {α β : Type}

/-- A field that has to be there. -/
def required (name : String) (r : Reader α) : Record α where
  fields := [⟨name, true, fun d => (r d).map fun _ => ()⟩]
  build find :=
    match find name with
    | some d => r d
    | none => .error (.missingField name)

/-- A field with a default. -/
def optional (name : String) (r : Reader α) (default : α) : Record α where
  fields := [⟨name, false, fun d => (r d).map fun _ => ()⟩]
  build find :=
    match find name with
    | some d => r d
    | none => .ok default

instance : Functor Record where
  map f r := { fields := r.fields, build := fun find => (r.build find).map f }

instance : Seq Record where
  seq f r :=
    { fields := f.fields ++ (r ()).fields,
      build := fun find => do
        let g ← f.build find
        let a ← (r ()).build find
        return g a }

/-- Take the entries of an object in the order in which they stand, given the names of the fields
already seen. -/
def checkEntries (fields : List Field) (seen : List String) :
    List (Option String × Draft) → Except ReadError Unit
  | [] => .ok ()
  | (none, _) :: _ => .error .notJson
  | (some key, d) :: rest =>
    match fields.find? (·.name = key) with
    | none => if d.sound then checkEntries fields seen rest else .error .notJson
    | some field =>
      if key ∈ seen then .error (.repeatedField key)
      else do
        field.check d
        checkEntries fields (key :: seen) rest

/-- Take the items of an array as the fields in their order, from a position on. -/
def checkItems (expected : String) (ending : Ending) (position : Nat) :
    List Field → List Draft → Except ReadError Unit
  | [], [] => if ending = .closed then .ok () else .error .notJson
  | [], d :: ds => .error (.surplusItem (position + (d :: ds).length))
  | field :: fields, d :: ds => do
    field.check d
    checkItems expected ending (position + 1) fields ds
  | field :: fields, [] =>
    if ending ≠ .closed then .error .notJson
    else if field.required then .error (.wrongShape (.items position) expected)
    else checkItems expected ending (position + 1) fields []

/-- The draft under a name in an object. -/
def findEntry? (name : String) : List (Option String × Draft) → Option Draft
  | [] => none
  | (key, d) :: rest => if key = some name then some d else findEntry? name rest

/-- The draft for the field of a name in an array. -/
def findItem? (name : String) : List Field → List Draft → Option Draft
  | field :: fields, d :: ds => if field.name = name then some d else findItem? name fields ds
  | _, _ => none

/-- What is expected of an array that is read as a structure. -/
def expectation (type : String) (arity : Nat) : String :=
  let elements := if arity = 1 then "element" else "elements"
  s!"struct {type} with {arity} {elements}"

/-- Read a structure of the type with the given name. -/
def read (r : Record α) (type : String) : Reader α := fun d =>
  match d.unfold with
  | .object entries ending => do
    checkEntries r.fields [] entries
    if ending = .closed then r.build fun name => findEntry? name entries else .error .notJson
  | .array items ending => do
    checkItems (expectation type r.fields.length) ending 0 r.fields items
    r.build fun name => findItem? name r.fields items
  | d => .error (d.mismatch s!"struct {type}")

end Record

end Percentile
