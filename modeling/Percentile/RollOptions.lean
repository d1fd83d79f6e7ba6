import Percentile.Reader.Basic

/-!
# Roll options

A *roll option* is a tag, such as `self:aiming` or `target:range:short`, that states a fact about
the acting character or the situation. A set of them is a table without values, so it has one form,
and equality is equality of sets (`RollOptions.ext_mem`).
-/

namespace Percentile

/-- A set of roll options. -/
structure RollOptions where
  tags : Table Unit
  deriving DecidableEq

namespace RollOptions

def empty : RollOptions := ⟨∅⟩

instance : EmptyCollection RollOptions := ⟨empty⟩

instance : Inhabited RollOptions := ⟨∅⟩

def contains (options : RollOptions) (tag : String) : Bool := options.tags.contains tag

instance : Membership String RollOptions := ⟨fun options tag => options.contains tag = true⟩

instance (tag : String) (options : RollOptions) : Decidable (tag ∈ options) :=
  inferInstanceAs (Decidable (options.contains tag = true))

def insert (options : RollOptions) (tag : String) : RollOptions := ⟨options.tags.insert tag ()⟩

def insertAll (options : RollOptions) (tags : List String) : RollOptions :=
  tags.foldl insert options

def ofList (tags : List String) : RollOptions := empty.insertAll tags

/-- The options in ascending order. -/
def sorted (options : RollOptions) : List String := options.tags.keys

def size (options : RollOptions) : Nat := options.tags.size

def isEmpty (options : RollOptions) : Bool := options.tags.isEmpty

/-- The options of both sets. -/
def union (a b : RollOptions) : RollOptions := a.insertAll b.sorted

instance : Union RollOptions := ⟨union⟩

def read : Reader RollOptions := fun d => (Reader.list Reader.text d).map ofList

def toJson (options : RollOptions) : Json := .array (options.sorted.map .string)

/-! ## Membership -/

theorem mem_iff {tag : String} {options : RollOptions} :
    tag ∈ options ↔ options.contains tag = true := Iff.rfl

@[simp] theorem not_mem_empty (tag : String) : tag ∉ (∅ : RollOptions) := by
  simp [mem_iff, contains, Table.contains, EmptyCollection.emptyCollection, empty, Table.empty,
    Table.find?, Entries.find?]

@[simp] theorem mem_insert {tag tag' : String} {options : RollOptions} :
    tag' ∈ options.insert tag ↔ tag' = tag ∨ tag' ∈ options := by
  simp only [mem_iff, contains, Table.contains, insert, Table.find?_insert]
  by_cases h : tag = tag'
  · simp [h]
  · simp [h, Ne.symm h]

/-- Two sets with the same members are equal. -/
theorem ext_mem {a b : RollOptions} (h : ∀ tag, tag ∈ a ↔ tag ∈ b) : a = b := by
  obtain ⟨a⟩ := a
  obtain ⟨b⟩ := b
  congr 1
  ext key u
  have := h key
  simp only [mem_iff, contains, Table.contains] at this
  cases ha : a.find? key <;> cases hb : b.find? key <;> simp_all

end RollOptions

end Percentile
