/-!
# Tables keyed by text

A *table* holds one value under each of finitely many keys. Its entries stand in ascending order of
their keys, by code point, each key once. So a table has one form, and two tables that answer every
look-up alike are equal (`Table.ext_find?`).

**Entries.** The operations are written on plain lists of entries, because a JSON object holds such
a list too. They keep ascending lists ascending (`Entries.ascending_put`), and the type `Table`
bundles a list with that fact.

**One way to write.** `put key f` replaces what stands under `key` by `f` of it. Insertion and
appending under a key are both instances (`find?_put`).
-/

namespace Percentile

universe u v

/-- A list of values under text keys. -/
abbrev Entries (α : Type u) := List (String × α)

namespace Entries

variable {α : Type u} {β : Type v}

/-- The keys stand in ascending order, each once. -/
def Ascending (entries : Entries α) : Prop := entries.Pairwise (·.1 < ·.1)

/-- The first value under a key. -/
def find? (key : String) : Entries α → Option α
  | [] => none
  | (k, a) :: rest => if k = key then some a else find? key rest

/-- Replace what stands under a key, at the key's place in ascending order. -/
def put (key : String) (f : Option α → α) : Entries α → Entries α
  | [] => [(key, f none)]
  | (k, a) :: rest =>
    if key < k then (key, f none) :: (k, a) :: rest
    else if key = k then (k, f (some a)) :: rest
    else (k, a) :: put key f rest

def insert (key : String) (a : α) (entries : Entries α) : Entries α := entries.put key fun _ => a

/-- The entries in ascending order. Of several under one key the last counts. -/
def sorted (entries : Entries α) : Entries α := entries.foldl (fun acc e => acc.insert e.1 e.2) []

theorem ascending_cons {e : String × α} {rest : Entries α} :
    Ascending (e :: rest) ↔ (∀ e' ∈ rest, e.1 < e'.1) ∧ Ascending rest := List.pairwise_cons

theorem key_of_mem_put {key : String} {f : Option α → α} {entries : Entries α} {e : String × α}
    (h : e ∈ entries.put key f) : e.1 = key ∨ e ∈ entries := by
  induction entries with
  | nil => simp [put] at h; simp [h]
  | cons head rest ih =>
    simp only [put] at h
    split at h
    · simp at h ⊢; rcases h with rfl | h | h <;> simp_all
    · split at h
      · rename_i heq; simp at h ⊢; rcases h with rfl | h <;> simp_all
      · simp at h ⊢
        rcases h with rfl | h
        · simp
        · rcases ih h with h | h <;> simp [h]

theorem ascending_put {key : String} {f : Option α → α} {entries : Entries α}
    (h : entries.Ascending) : (entries.put key f).Ascending := by
  induction entries with
  | nil => simp [put, Ascending]
  | cons head rest ih =>
    rw [ascending_cons] at h
    simp only [put]
    split
    · rename_i hlt
      refine ascending_cons.2 ⟨fun e he => ?_, ascending_cons.2 h⟩
      rcases List.mem_cons.1 he with rfl | he
      · exact hlt
      · exact String.lt_trans hlt (h.1 e he)
    · split
      · exact ascending_cons.2 ⟨h.1, h.2⟩
      · rename_i hlt hne
        refine ascending_cons.2 ⟨fun e he => ?_, ih h.2⟩
        rcases key_of_mem_put he with he | he
        · rw [he]
          rcases Std.lt_trichotomy head.1 key with h' | h' | h'
          · exact h'
          · exact absurd h'.symm hne
          · exact absurd h' hlt
        · exact h.1 e he

theorem ascending_sorted (entries : Entries α) : entries.sorted.Ascending := by
  suffices ∀ acc : Entries α, acc.Ascending →
      (entries.foldl (fun acc e => acc.insert e.1 e.2) acc).Ascending from this [] .nil
  induction entries with
  | nil => exact fun _ h => h
  | cons e rest ih => exact fun acc h => ih _ (ascending_put h)

/-- Below the first key of an ascending list stands nothing. -/
theorem find?_eq_none_of_lt {key : String} {entries : Entries α}
    (h : ∀ e ∈ entries, key < e.1) : entries.find? key = none := by
  induction entries with
  | nil => rfl
  | cons head rest ih =>
    have hne : head.1 ≠ key := fun he =>
      String.lt_irrefl key (by simpa [he] using h head (by simp))
    simp only [find?, if_neg hne]
    exact ih fun e he => h e (by simp [he])

/-- Writing under one key changes the look-up of that key alone. -/
theorem find?_put {key key' : String} {f : Option α → α} {entries : Entries α}
    (h : entries.Ascending) :
    (entries.put key f).find? key' =
      if key = key' then some (f (entries.find? key)) else entries.find? key' := by
  induction entries with
  | nil => simp [put, find?]
  | cons head rest ih =>
    have hrest := (ascending_cons.1 h).1
    simp only [put]
    split
    · rename_i hlt
      have hnone : find? key (head :: rest) = none := by
        refine find?_eq_none_of_lt fun e he => ?_
        rcases List.mem_cons.1 he with rfl | he
        · exact hlt
        · exact String.lt_trans hlt (hrest e he)
      rw [hnone]
      simp [find?]
    · split
      · rename_i heq
        subst heq
        simp only [find?, if_true]
        split <;> rfl
      · rename_i hne
        have hne' : head.1 ≠ key := fun he => hne he.symm
        simp only [find?, if_neg hne', ih (ascending_cons.1 h).2]
        split
        · rename_i he
          have : key ≠ key' := fun hk => hne' (he.trans hk.symm)
          simp [this]
        · rfl

/-- Ascending entries are determined by their look-ups. -/
theorem ext_find? {s t : Entries α} (hs : s.Ascending) (ht : t.Ascending)
    (h : ∀ key, s.find? key = t.find? key) : s = t := by
  induction s generalizing t with
  | nil =>
    cases t with
    | nil => rfl
    | cons e _ => have := h e.1; simp [find?] at this
  | cons e s ih =>
    cases t with
    | nil => have := h e.1; simp [find?] at this
    | cons e' t =>
      have hs' := ascending_cons.1 hs
      have ht' := ascending_cons.1 ht
      have not_lt : ∀ {a b : String × α} {r r' : Entries α}, (∀ x ∈ r', b.1 < x.1) →
          (∀ key, find? key (a :: r) = find? key (b :: r')) → ¬ a.1 < b.1 := by
        intro a b r r' hb heq hlt
        have hnone : find? a.1 (b :: r') = none := by
          refine find?_eq_none_of_lt fun x hx => ?_
          rcases List.mem_cons.1 hx with rfl | hx
          · exact hlt
          · exact String.lt_trans hlt (hb x hx)
        have := heq a.1
        rw [hnone] at this
        simp [find?] at this
      have key_eq : e.1 = e'.1 := by
        rcases Std.lt_trichotomy e.1 e'.1 with hlt | heq | hlt
        · exact absurd hlt (not_lt ht'.1 h)
        · exact heq
        · exact absurd hlt (not_lt hs'.1 fun key => (h key).symm)
      have val_eq : e.2 = e'.2 := by
        have := h e.1
        simpa [find?, key_eq] using this
      have head_eq : e = e' := Prod.ext key_eq val_eq
      subst head_eq
      congr 1
      refine ih hs'.2 ht'.2 fun key => ?_
      by_cases hk : e.1 = key
      · subst hk
        rw [find?_eq_none_of_lt hs'.1, find?_eq_none_of_lt ht'.1]
      · simpa [find?, hk] using h key

end Entries

/-- One value under each of finitely many text keys. -/
structure Table (α : Type u) where
  entries : Entries α
  /-- Each key stands once, in ascending order. -/
  ascending : entries.Ascending
  deriving DecidableEq

namespace Table

variable {α : Type u} {β : Type v}

def empty : Table α := ⟨[], .nil⟩

instance : EmptyCollection (Table α) := ⟨empty⟩

instance : Inhabited (Table α) := ⟨empty⟩

def find? (t : Table α) (key : String) : Option α := t.entries.find? key

def contains (t : Table α) (key : String) : Bool := (t.find? key).isSome

def put (t : Table α) (key : String) (f : Option α → α) : Table α :=
  ⟨t.entries.put key f, Entries.ascending_put t.ascending⟩

def insert (t : Table α) (key : String) (a : α) : Table α := t.put key fun _ => a

/-- The table of a list of entries. Of several under one key the last counts. -/
def ofEntries (entries : Entries α) : Table α := ⟨entries.sorted, entries.ascending_sorted⟩

def keys (t : Table α) : List String := t.entries.map (·.1)

def size (t : Table α) : Nat := t.entries.length

def isEmpty (t : Table α) : Bool := t.entries.isEmpty

/-- The entries of both tables, where `f` joins two values under one key. -/
def merge (f : α → α → α) (s t : Table α) : Table α :=
  t.entries.foldl (fun acc e => acc.put e.1 fun old => old.elim e.2 (f · e.2)) s

/-- Change every value, keeping its key. -/
def map (f : α → β) (t : Table α) : Table β :=
  ⟨t.entries.map fun e => (e.1, f e.2),
    by simpa [Entries.Ascending, List.pairwise_map] using t.ascending⟩

/-! ## Look-ups -/

@[ext] theorem ext_find? {s t : Table α} (h : ∀ key, s.find? key = t.find? key) : s = t := by
  cases s; cases t
  congr 1
  exact Entries.ext_find? ‹_› ‹_› h

@[simp] theorem find?_empty (key : String) : (∅ : Table α).find? key = none := rfl

theorem find?_put (t : Table α) (key key' : String) (f : Option α → α) :
    (t.put key f).find? key' = if key = key' then some (f (t.find? key)) else t.find? key' :=
  Entries.find?_put t.ascending

theorem find?_insert (t : Table α) (key key' : String) (a : α) :
    (t.insert key a).find? key' = if key = key' then some a else t.find? key' :=
  t.find?_put key key' _

end Table

end Percentile
