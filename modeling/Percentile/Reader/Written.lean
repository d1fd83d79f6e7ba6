import Percentile.Reader.Basic

/-!
# Reading what was written

Each kind of value has one written form, and reading that form gives the value back. These laws say
so for the basic kinds, and carry it from the members of a list or table to the whole
(`list_written`, `table_written`).
-/

namespace Percentile

namespace Entries

variable {α : Type}

/-- Putting an entry behind all others leaves it there. -/
theorem put_of_forall_lt {key : String} {f : Option α → α} {entries : Entries α}
    (h : ∀ e ∈ entries, e.1 < key) : entries.put key f = entries ++ [(key, f none)] := by
  induction entries with
  | nil => rfl
  | cons head rest ih =>
    have hlt := h head (by simp)
    have hnot : ¬ key < head.1 := String.lt_asymm hlt
    have hne : key ≠ head.1 := fun he => String.lt_irrefl key (he ▸ hlt)
    simp only [put, if_neg hnot, if_neg hne, ih fun e he => h e (by simp [he]), List.cons_append]

/-- Entries that stand in ascending order stay as they are. -/
theorem sorted_of_ascending {entries : Entries α} (h : entries.Ascending) :
    entries.sorted = entries := by
  suffices ∀ front : Entries α, (∀ e ∈ front, ∀ e' ∈ entries, e.1 < e'.1) →
      entries.foldl (fun acc e => acc.insert e.1 e.2) front = front ++ entries by
    simpa [sorted] using this [] (by simp)
  induction entries with
  | nil => simp
  | cons e rest ih =>
    intro front hfront
    have hrest := ascending_cons.1 h
    have hput : insert e.1 e.2 front = front ++ [e] :=
      put_of_forall_lt fun e' he' => hfront e' he' e (by simp)
    rw [List.foldl_cons, hput, ih hrest.2]
    · simp
    · intro a ha b hb
      rcases List.mem_append.1 ha with ha | ha
      · exact hfront a ha b (by simp [hb])
      · rw [List.mem_singleton.1 ha]
        exact hrest.1 b hb

end Entries

/-- A table is the table of its entries. -/
@[simp] theorem Table.ofEntries_entries {α : Type} (t : Table α) : ofEntries t.entries = t := by
  obtain ⟨entries, ascending⟩ := t
  simp [ofEntries, Entries.sorted_of_ascending ascending]

namespace Reader

variable {α : Type}

@[simp] theorem any_ofValue (j : Json) : any (.ofValue j) = .ok j := by
  simp [any, Draft.value?]

@[simp] theorem text_ofValue (s : String) : text (.ofValue (.string s)) = .ok s := rfl

@[simp] theorem bool_ofValue (b : Bool) : bool (.ofValue (.bool b)) = .ok b := rfl

@[simp] theorem score_ofValue (a : Score) : score (.ofValue (.score a)) = .ok a := by
  have := Json.score?_score a
  simp only [Json.score, Json.int, Json.score?] at this
  simp [score, Draft.unfold, Json.score, Json.int, this]

@[simp] theorem word_ofValue (n : UInt32) : word (.ofValue (.int n.toNat)) = .ok n := by
  have := n.toNat_lt
  simp only [word, Draft.unfold, Json.int]
  rw [if_pos (by omega)]
  simp

@[simp] theorem option_ofValue_null (r : Reader α) : option r (.ofValue .null) = .ok none := rfl

/-- Reading the written items gives the items. -/
theorem items_written {r : Reader α} {write : α → Json} {as : List α}
    (h : ∀ a ∈ as, r (.ofValue (write a)) = .ok a) :
    items r (as.map fun a => .ofValue (write a)) = .ok as := by
  induction as with
  | nil => rfl
  | cons a rest ih =>
    simp [items, h a (by simp), ih fun b hb => h b (by simp [hb]), bind, Except.bind, pure,
      Except.pure]

/-- Reading a written list gives the list. -/
theorem list_written {r : Reader α} {write : α → Json} {as : List α}
    (h : ∀ a ∈ as, r (.ofValue (write a)) = .ok a) :
    list r (.ofValue (.array (as.map write))) = .ok as := by
  simp only [list, Draft.unfold, List.map_map, Function.comp_def, items_written h]
  rfl

/-- Reading the written entries gives the entries. -/
theorem entries_written {r : Reader α} {write : α → Json} {es : Entries α}
    (h : ∀ e ∈ es, r (.ofValue (write e.2)) = .ok e.2) :
    entries r (es.map fun e => (some e.1, .ofValue (write e.2))) = .ok es := by
  induction es with
  | nil => rfl
  | cons e rest ih =>
    simp [entries, h e (by simp), ih fun b hb => h b (by simp [hb]), bind, Except.bind, pure,
      Except.pure]

/-- Reading a written table gives the table. -/
theorem table_written {r : Reader α} {write : α → Json} {t : Table α}
    (h : ∀ e ∈ t.entries, r (.ofValue (write e.2)) = .ok e.2) :
    table r (.ofValue (.ofTable (t.map write))) = .ok t := by
  simp only [table, Draft.unfold, Json.ofTable, Table.map, List.map_map, Function.comp_def,
    entries_written h]
  simp [bind, Except.bind]

end Reader

end Percentile
