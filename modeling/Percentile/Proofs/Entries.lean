import Percentile.Table

/-!
# Entries in order

Putting entries in order changes neither what stands in them nor, except where a key is repeated,
what is found under a key. Of several entries under one key the last is found (`find?_sorted`).
-/

namespace Percentile

namespace Entries

variable {α : Type}

theorem find?_append (key : String) (front back : Entries α) :
    find? key (front ++ back) = (find? key front).or (find? key back) := by
  induction front with
  | nil => rfl
  | cons e rest ih =>
    by_cases hkey : e.1 = key
    · simp [find?, hkey]
    · simp [find?, hkey, ih]

theorem mem_of_find? {key : String} {x : α} {entries : Entries α}
    (h : entries.find? key = some x) : (key, x) ∈ entries := by
  induction entries with
  | nil => exact absurd h (by simp [find?])
  | cons e rest ih =>
    unfold find? at h
    by_cases hkey : e.1 = key
    · rw [if_pos hkey, Option.some.injEq] at h
      rw [← hkey, ← h]
      exact List.mem_cons_self
    · rw [if_neg hkey] at h
      exact List.mem_cons_of_mem e (ih h)

theorem find?_map {β : Type} (f : α → β) (key : String) (entries : Entries α) :
    find? key (entries.map fun e => (e.1, f e.2)) = (find? key entries).map f := by
  induction entries with
  | nil => rfl
  | cons e rest ih =>
    by_cases hkey : e.1 = key
    · simp [find?, hkey]
    · simp [find?, hkey, ih]

/-- In entries with different keys each entry is found under its key. -/
theorem find?_of_nodup {entries : Entries α} (h : (entries.map (·.1)).Nodup) {e : String × α}
    (he : e ∈ entries) : entries.find? e.1 = some e.2 := by
  induction entries with
  | nil => exact absurd he List.not_mem_nil
  | cons head rest ih =>
    obtain ⟨hhead, hrest⟩ := List.nodup_cons.1 h
    rcases List.mem_cons.1 he with rfl | he
    · exact if_pos rfl
    · have hne : head.1 ≠ e.1 := fun heq => hhead (List.mem_map.2 ⟨e, he, heq.symm⟩)
      exact (if_neg hne).trans (ih hrest he)

/-- In ascending entries each entry is found under its key. -/
theorem find?_of_mem {entries : Entries α} (h : entries.Ascending) {e : String × α}
    (he : e ∈ entries) : entries.find? e.1 = some e.2 := by
  refine find?_of_nodup (List.pairwise_map.2 (h.imp ?_)) he
  intro a b hlt heq
  exact String.lt_irrefl _ (heq ▸ hlt)

theorem find?_filter {keep : String → Bool} {key : String} (hkeep : keep key = true)
    (entries : Entries α) : find? key (entries.filter (keep ·.1)) = find? key entries := by
  induction entries with
  | nil => rfl
  | cons e rest ih =>
    by_cases he : keep e.1 = true
    · simp only [List.filter_cons, he, if_true, find?, ih]
    · have hne : e.1 ≠ key := fun hkey => he (hkey ▸ hkeep)
      simp [find?, he, hne, ih]

theorem find?_filter_of_not {keep : String → Bool} {key : String} (hkeep : keep key = false)
    (entries : Entries α) : find? key (entries.filter (keep ·.1)) = none := by
  induction entries with
  | nil => rfl
  | cons e rest ih =>
    by_cases he : keep e.1 = true
    · have hne : e.1 ≠ key := by
        rintro rfl
        exact Bool.false_ne_true (hkeep.symm.trans he)
      simp only [List.filter_cons, he, if_true, find?, if_neg hne, ih]
    · simp only [List.filter_cons, he, if_false, ih, Bool.false_eq_true]

/-- Ascending entries that agree on some keys are the same under these keys. -/
theorem filter_eq_of_agree {keep : String → Bool} {s t : Entries α} (hs : s.Ascending)
    (ht : t.Ascending) (h : ∀ key, keep key = true → s.find? key = t.find? key) :
    s.filter (keep ·.1) = t.filter (keep ·.1) := by
  apply ext_find? (List.Pairwise.filter _ hs) (List.Pairwise.filter _ ht)
  intro key
  by_cases hkey : keep key = true
  · rw [find?_filter hkey, find?_filter hkey, h key hkey]
  · rw [Bool.not_eq_true] at hkey
    rw [find?_filter_of_not hkey, find?_filter_of_not hkey]

theorem mem_put {key : String} {f : Option α → α} {entries : Entries α} {e : String × α}
    (h : e ∈ entries.put key f) : (∃ old, e = (key, f old)) ∨ e ∈ entries := by
  induction entries with
  | nil =>
    rw [put, List.mem_singleton] at h
    exact .inl ⟨none, h⟩
  | cons head rest ih =>
    unfold put at h
    split at h
    · rcases List.mem_cons.1 h with rfl | h
      · exact .inl ⟨none, rfl⟩
      · exact .inr h
    · split at h
      · rename_i hkey
        rcases List.mem_cons.1 h with rfl | h
        · exact .inl ⟨some head.2, by rw [hkey]⟩
        · exact .inr (List.mem_cons_of_mem head h)
      · rcases List.mem_cons.1 h with rfl | h
        · exact .inr List.mem_cons_self
        · rcases ih h with hnew | hold
          · exact .inl hnew
          · exact .inr (List.mem_cons_of_mem head hold)

theorem mem_of_mem_sorted {entries : Entries α} {e : String × α} (h : e ∈ entries.sorted) :
    e ∈ entries := by
  suffices ∀ acc : Entries α, e ∈ entries.foldl (fun acc e => acc.insert e.1 e.2) acc →
      e ∈ acc ∨ e ∈ entries by
    rcases this [] h with h | h
    · exact absurd h List.not_mem_nil
    · exact h
  clear h
  induction entries with
  | nil => exact fun acc h => .inl h
  | cons head rest ih =>
    intro acc h
    rcases ih _ h with h | h
    · rcases mem_put h with ⟨_, rfl⟩ | h
      · exact .inr List.mem_cons_self
      · exact .inl h
    · exact .inr (List.mem_cons_of_mem head h)

/-- **Of several entries under one key the last is found.** -/
theorem find?_sorted (entries : Entries α) (key : String) :
    entries.sorted.find? key = find? key entries.reverse := by
  suffices ∀ acc : Entries α, acc.Ascending →
      find? key (entries.foldl (fun acc e => acc.insert e.1 e.2) acc) =
        (find? key entries.reverse).or (find? key acc) by
    have hsorted := this [] .nil
    rwa [show find? key ([] : Entries α) = none from rfl, Option.or_none] at hsorted
  induction entries with
  | nil => exact fun acc _ => rfl
  | cons e rest ih =>
    intro acc hacc
    have hinsert : (insert e.1 e.2 acc).Ascending := ascending_put hacc
    rw [List.foldl_cons, ih _ hinsert, List.reverse_cons, find?_append, insert, find?_put hacc]
    by_cases hkey : e.1 = key
    · simp [find?, hkey]
    · simp [find?, hkey]

theorem find?_sorted_of_mem {entries : Entries α} (h : (entries.map (·.1)).Nodup) {key : String}
    {x : α} (hmem : (key, x) ∈ entries) : entries.sorted.find? key = some x := by
  rw [find?_sorted]
  apply find?_of_nodup _ (List.mem_reverse.2 hmem)
  rw [List.map_reverse]
  exact List.pairwise_reverse.2 (h.imp Ne.symm)

end Entries

namespace Table

variable {α β : Type}

theorem find?_map (f : α → β) (t : Table α) (key : String) :
    (t.map f).find? key = (t.find? key).map f :=
  Entries.find?_map f key t.entries

theorem ofEntries_map (f : α → β) (entries : Entries α) :
    ofEntries (entries.map fun e => (e.1, f e.2)) = (ofEntries entries).map f := by
  ext1 key
  rw [find?_map]
  show Entries.find? key (Entries.sorted _) = (Entries.find? key (Entries.sorted _)).map f
  rw [Entries.find?_sorted, Entries.find?_sorted, ← List.map_reverse, Entries.find?_map]

end Table

end Percentile
