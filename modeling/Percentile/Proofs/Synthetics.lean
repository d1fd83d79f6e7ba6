import Mathlib.Data.List.Perm.Basic
import Percentile.Synthetics

/-!
# Synthetics add up

`s ++ t` has the effects of both, those of `s` first. What is shown here makes it an addition: the
look-ups of a sum are those of its parts (`Table.find?_merge`, `RollOptions.mem_union`), sums
associate, and the synthetics without effects are neutral.

**Writing is adding.** Each way to write into synthetics adds to them what it writes into empty ones
(`addModifier_eq` and its companions).

**Up to order** (`Synthetics.Alike`). Two synthetics are alike if they have the same roll options
and if each of their lists is a rearrangement of the other. Summands may change places
(`alike_total_of_perm`).
-/

namespace Percentile

/-! ## Look-ups in a sum -/

namespace Entries

variable {α : Type}

theorem mem_keys_iff {key : String} {entries : Entries α} :
    key ∈ entries.map (·.1) ↔ (entries.find? key).isSome = true := by
  induction entries with
  | nil => simp [find?]
  | cons e rest ih =>
    by_cases he : e.1 = key
    · simp [find?, he]
    · simp [find?, he, ← ih, Ne.symm he]

end Entries

namespace Table

variable {α : Type}

/-- Writing entry after entry, each key once, reaches each key once. -/
theorem find?_foldl_put (f : α → α → α) (s : Table α) (entries : Entries α)
    (h : entries.Ascending) (key : String) :
    (entries.foldl (fun acc e => acc.put e.1 fun old => old.elim e.2 (f · e.2)) s).find? key =
      (entries.find? key).elim (s.find? key) fun b => some ((s.find? key).elim b (f · b)) := by
  induction entries generalizing s with
  | nil => rfl
  | cons e rest ih =>
    obtain ⟨hrest, hascending⟩ := Entries.ascending_cons.1 h
    rw [List.foldl_cons, ih _ hascending, find?_put]
    by_cases he : e.1 = key
    · subst he
      rw [Entries.find?_eq_none_of_lt hrest]
      simp [Entries.find?]
    · simp [Entries.find?, he]

theorem find?_merge (f : α → α → α) (s t : Table α) (key : String) :
    (s.merge f t).find? key =
      (t.find? key).elim (s.find? key) fun b => some ((s.find? key).elim b (f · b)) :=
  find?_foldl_put f s t.entries t.ascending key

/-- The list under a key, empty where there is none. -/
def listAt (t : Table (List α)) (key : String) : List α := (t.find? key).getD []

theorem mem_listAt {t : Table (List α)} {key : String} {a : α} :
    a ∈ t.listAt key ↔ ∃ as, t.find? key = some as ∧ a ∈ as := by
  unfold listAt
  cases t.find? key <;> simp

theorem listAt_merge (s t : Table (List α)) (key : String) :
    (s.merge (· ++ ·) t).listAt key = s.listAt key ++ t.listAt key := by
  rw [listAt, find?_merge, listAt, listAt]
  cases s.find? key <;> cases t.find? key <;> simp

theorem empty_merge (f : α → α → α) (t : Table α) : merge f ∅ t = t := by
  ext key
  rw [find?_merge, find?_empty]
  cases t.find? key <;> simp

theorem merge_assoc {f : α → α → α} (hf : ∀ a b c, f (f a b) c = f a (f b c)) (s t u : Table α) :
    (s.merge f t).merge f u = s.merge f (t.merge f u) := by
  ext key
  simp only [find?_merge]
  cases s.find? key <;> cases t.find? key <;> cases u.find? key <;> simp [hf]

theorem append_eq_merge (t : Table (List α)) (key : String) (a : α) :
    t.append key a = t.merge (· ++ ·) ((∅ : Table (List α)).append key a) := by
  ext key'
  rw [find?_merge, append, append, find?_put, find?_put]
  by_cases hkey : key = key'
  · subst hkey
    cases t.find? key <;> simp
  · simp [hkey]

end Table

namespace RollOptions

theorem mem_insertAll {tag : String} {tags : List String} {options : RollOptions} :
    tag ∈ options.insertAll tags ↔ tag ∈ options ∨ tag ∈ tags := by
  induction tags generalizing options with
  | nil => simp [insertAll]
  | cons t rest ih =>
    have hstep : options.insertAll (t :: rest) = (options.insert t).insertAll rest := rfl
    rw [hstep, ih, mem_insert, List.mem_cons]
    tauto

theorem mem_ofList {tag : String} {tags : List String} : tag ∈ ofList tags ↔ tag ∈ tags := by
  have hempty : tag ∉ empty := not_mem_empty tag
  rw [ofList, mem_insertAll]
  simp [hempty]

theorem mem_sorted {tag : String} {options : RollOptions} : tag ∈ options.sorted ↔ tag ∈ options :=
  Entries.mem_keys_iff

@[simp] theorem mem_union {tag : String} {a b : RollOptions} : tag ∈ a ∪ b ↔ tag ∈ a ∨ tag ∈ b := by
  show tag ∈ a.insertAll b.sorted ↔ _
  rw [mem_insertAll, mem_sorted]

theorem empty_union (a : RollOptions) : ∅ ∪ a = a := ext_mem fun tag => by simp

theorem union_assoc (a b c : RollOptions) : a ∪ b ∪ c = a ∪ (b ∪ c) :=
  ext_mem fun tag => by simp [or_assoc]

theorem union_left_comm (a b c : RollOptions) : a ∪ (b ∪ c) = b ∪ (a ∪ c) :=
  ext_mem fun tag => by simp only [mem_union]; tauto

theorem insert_eq_union (a : RollOptions) (tag : String) :
    a.insert tag = a ∪ (∅ : RollOptions).insert tag :=
  ext_mem fun tag' => by simp [or_comm]

end RollOptions

/-! ## Sums of synthetics -/

attribute [ext] Synthetics

namespace Synthetics

variable (s t u : Synthetics)

@[simp] theorem rollOptions_append : (s ++ t).rollOptions = s.rollOptions ∪ t.rollOptions := rfl

@[simp] theorem modifiers_append :
    (s ++ t).modifiers = s.modifiers.merge (· ++ ·) t.modifiers := rfl

@[simp] theorem degreeAdjustments_append :
    (s ++ t).degreeAdjustments = s.degreeAdjustments ++ t.degreeAdjustments := rfl

@[simp] theorem resistances_append :
    (s ++ t).resistances = s.resistances ++ t.resistances := rfl

@[simp] theorem toughnessAdjustments_append :
    (s ++ t).toughnessAdjustments = s.toughnessAdjustments ++ t.toughnessAdjustments := rfl

@[simp] theorem diceOverrides_append :
    (s ++ t).diceOverrides = s.diceOverrides.merge (· ++ ·) t.diceOverrides := rfl

theorem append_empty : s ++ ∅ = s :=
  Synthetics.ext rfl rfl (List.append_nil _) (List.append_nil _) (List.append_nil _) rfl

theorem empty_append : ∅ ++ t = t :=
  Synthetics.ext (RollOptions.empty_union _) (Table.empty_merge _ _) rfl rfl rfl
    (Table.empty_merge _ _)

theorem append_assoc : s ++ t ++ u = s ++ (t ++ u) :=
  Synthetics.ext (RollOptions.union_assoc _ _ _) (Table.merge_assoc List.append_assoc _ _ _)
    (List.append_assoc _ _ _) (List.append_assoc _ _ _) (List.append_assoc _ _ _)
    (Table.merge_assoc List.append_assoc _ _ _)

/-! ### Writing is adding -/

theorem addRollOption_eq (tag : String) :
    s.addRollOption tag = s ++ (∅ : Synthetics).addRollOption tag :=
  Synthetics.ext (RollOptions.insert_eq_union _ _) rfl (List.append_nil _).symm
    (List.append_nil _).symm (List.append_nil _).symm rfl

theorem addModifier_eq (domain : Domain) (m : Modifier) :
    s.addModifier domain m = s ++ (∅ : Synthetics).addModifier domain m :=
  Synthetics.ext rfl (Table.append_eq_merge _ _ _) (List.append_nil _).symm
    (List.append_nil _).symm (List.append_nil _).symm rfl

theorem addDiceOverride_eq (domain : Domain) (o : DiceOverride) :
    s.addDiceOverride domain o = s ++ (∅ : Synthetics).addDiceOverride domain o :=
  Synthetics.ext rfl rfl (List.append_nil _).symm (List.append_nil _).symm
    (List.append_nil _).symm (Table.append_eq_merge _ _ _)

theorem addDegreeAdjustment_eq (a : DegreeAdjustment) :
    s.addDegreeAdjustment a = s ++ (∅ : Synthetics).addDegreeAdjustment a :=
  Synthetics.ext rfl rfl rfl (List.append_nil _).symm (List.append_nil _).symm rfl

theorem addResistance_eq (r : Resistance) :
    s.addResistance r = s ++ (∅ : Synthetics).addResistance r :=
  Synthetics.ext rfl rfl (List.append_nil _).symm rfl (List.append_nil _).symm rfl

theorem addToughnessAdjustment_eq (a : ToughnessAdjustment) :
    s.addToughnessAdjustment a = s ++ (∅ : Synthetics).addToughnessAdjustment a :=
  Synthetics.ext rfl rfl (List.append_nil _).symm (List.append_nil _).symm rfl rfl

/-! ### Sums of many -/

/-- The effects of all synthetics of a list, in their order. -/
def total (parts : List Synthetics) : Synthetics := parts.foldr (· ++ ·) ∅

@[simp] theorem total_nil : total [] = ∅ := rfl

@[simp] theorem total_cons (parts : List Synthetics) : total (s :: parts) = s ++ total parts := rfl

/-- Parts without effects can be left out. -/
theorem total_map_filter {α : Type} {as : List α} {f : α → Synthetics} {p : α → Bool}
    (h : ∀ a ∈ as, p a = false → f a = ∅) : total ((as.filter p).map f) = total (as.map f) := by
  induction as with
  | nil => rfl
  | cons a rest ih =>
    have htail := ih fun b hb => h b (by simp [hb])
    by_cases hp : p a = true
    · rw [List.filter_cons_of_pos hp, List.map_cons, List.map_cons, total_cons, total_cons, htail]
    · have ha := h a (by simp) (by simpa using hp)
      rw [List.filter_cons_of_neg hp, List.map_cons, total_cons, htail, ha, empty_append]

/-! ### Up to order -/

/-- The same effects in another order. -/
structure Alike (s t : Synthetics) : Prop where
  rollOptions : s.rollOptions = t.rollOptions
  modifiers (key : String) : (s.modifiers.listAt key).Perm (t.modifiers.listAt key)
  degreeAdjustments : s.degreeAdjustments.Perm t.degreeAdjustments
  resistances : s.resistances.Perm t.resistances
  toughnessAdjustments : s.toughnessAdjustments.Perm t.toughnessAdjustments
  diceOverrides (key : String) : (s.diceOverrides.listAt key).Perm (t.diceOverrides.listAt key)

variable {s t u}

theorem Alike.refl (s : Synthetics) : s.Alike s :=
  ⟨rfl, fun _ => .refl _, .refl _, .refl _, .refl _, fun _ => .refl _⟩

theorem Alike.trans (h : s.Alike t) (h' : t.Alike u) : s.Alike u where
  rollOptions := h.rollOptions.trans h'.rollOptions
  modifiers key := (h.modifiers key).trans (h'.modifiers key)
  degreeAdjustments := h.degreeAdjustments.trans h'.degreeAdjustments
  resistances := h.resistances.trans h'.resistances
  toughnessAdjustments := h.toughnessAdjustments.trans h'.toughnessAdjustments
  diceOverrides key := (h.diceOverrides key).trans (h'.diceOverrides key)

theorem Alike.append_left (s : Synthetics) (h : t.Alike u) : (s ++ t).Alike (s ++ u) where
  rollOptions := by rw [rollOptions_append, rollOptions_append, h.rollOptions]
  modifiers key := by
    rw [modifiers_append, modifiers_append, Table.listAt_merge, Table.listAt_merge]
    exact (h.modifiers key).append_left _
  degreeAdjustments := h.degreeAdjustments.append_left _
  resistances := h.resistances.append_left _
  toughnessAdjustments := h.toughnessAdjustments.append_left _
  diceOverrides key := by
    rw [diceOverrides_append, diceOverrides_append, Table.listAt_merge, Table.listAt_merge]
    exact (h.diceOverrides key).append_left _

theorem alike_append_left_comm (s t u : Synthetics) : (s ++ (t ++ u)).Alike (t ++ (s ++ u)) where
  rollOptions := RollOptions.union_left_comm _ _ _
  modifiers key := by
    simp only [modifiers_append, Table.listAt_merge]
    exact List.perm_append_comm_assoc _ _ _
  degreeAdjustments := List.perm_append_comm_assoc _ _ _
  resistances := List.perm_append_comm_assoc _ _ _
  toughnessAdjustments := List.perm_append_comm_assoc _ _ _
  diceOverrides key := by
    simp only [diceOverrides_append, Table.listAt_merge]
    exact List.perm_append_comm_assoc _ _ _

/-- **Summands may change places.** -/
theorem alike_total_of_perm {parts parts' : List Synthetics} (h : parts.Perm parts') :
    (total parts).Alike (total parts') := by
  induction h with
  | nil => exact .refl _
  | cons t _ ih => exact ih.append_left t
  | swap s t rest => exact alike_append_left_comm t s (total rest)
  | trans _ _ ih ih' => exact ih.trans ih'

/-- Synthetics that are alike offer the same modifiers in every domain. -/
theorem Alike.modifiersFor (h : s.Alike t) (domain : Domain) :
    (s.modifiersFor domain).Perm (t.modifiersFor domain) := by
  unfold Synthetics.modifiersFor Table.along
  exact List.Perm.flatMap_left _ fun d _ => h.modifiers d.text

end Synthetics

end Percentile
