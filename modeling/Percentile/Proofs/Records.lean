import Percentile.Proofs.Entries
import Percentile.Reader.Record
import Percentile.Reader.Written

/-!
# Laws of records and of readers

**Lawful records** (`Record.Lawful`). A record asks for its own fields alone, and it gives a
structure only if it could read all of them that are there. Every record that is put together from
fields is lawful. So an object is read as soon as its fields give a structure
(`Record.read_object`), and what stands under other names has no say
(`Record.read_filter`, `Record.read_ofTable_congr`).

**Faithful readers** (`Reader.Faithful`). A reader is faithful to a way of writing if it reads again
all that it has read before, once that is written. Lists and tables are as faithful as their
members.

**Readers in turn** (`Reader.firstOf_eq`). Where several readers are tried, only drafts that are
JSON as a whole come to them, and of these each takes what its values look like at the first level.
-/

namespace Percentile

section Except

variable {ε α β : Type} {x : Except ε α} {b : β}

theorem bind_eq_ok {f : α → Except ε β} : x >>= f = .ok b ↔ ∃ a, x = .ok a ∧ f a = .ok b := by
  cases x with
  | error e => exact ⟨nofun, fun ⟨_, h, _⟩ => absurd h nofun⟩
  | ok a =>
    constructor
    · exact fun h => ⟨a, rfl, h⟩
    · rintro ⟨_, h, hf⟩
      cases h
      exact hf

theorem map_eq_ok {f : α → β} : x.map f = .ok b ↔ ∃ a, x = .ok a ∧ f a = b := by
  cases x with
  | error e => exact ⟨nofun, fun ⟨_, h, _⟩ => absurd h nofun⟩
  | ok a => simp [Except.map]

end Except

theorem Json.field?_ofFields (fields : Entries Json) (key : String) :
    (Json.ofFields fields).field? key = Entries.find? key fields.reverse :=
  Entries.find?_sorted fields key

/-! ## Building structures -/

namespace Record

variable {α β : Type} {name : String} {find find' : String → Option Draft}

theorem build_required {r : Reader α} {a : α} :
    (required name r).build find = .ok a ↔ ∃ d, find name = some d ∧ r d = .ok a := by
  simp only [required]
  cases find name <;> simp

theorem build_optional {r : Reader α} {default a : α} :
    (optional name r default).build find = .ok a ↔
      (∃ d, find name = some d ∧ r d = .ok a) ∨ (find name = none ∧ default = a) := by
  simp only [optional]
  cases find name <;> simp

theorem build_map {r : Record α} {f : α → β} {b : β} :
    (f <$> r).build find = .ok b ↔ ∃ a, r.build find = .ok a ∧ f a = b :=
  map_eq_ok

theorem build_seq {f : Record (α → β)} {r : Record α} {b : β} :
    (f <*> r).build find = .ok b ↔
      ∃ g, f.build find = .ok g ∧ ∃ a, r.build find = .ok a ∧ g a = b := by
  show (f.build find >>= fun g => r.build find >>= fun a => pure (g a)) = .ok b ↔ _
  simp only [bind_eq_ok, pure, Except.pure, Except.ok.injEq]

/-- A record that asks for its own fields alone, and gives a structure only if it could read all of
them that are there. -/
class Lawful (r : Record α) : Prop where
  build_congr {find find' : String → Option Draft}
    (h : ∀ field ∈ r.fields, find field.name = find' field.name) : r.build find = r.build find'
  check_of_build {find : String → Option Draft} {a : α} (h : r.build find = .ok a) :
    ∀ field ∈ r.fields, ∀ d, find field.name = some d → field.check d = .ok ()

instance (r : Reader α) : Lawful (required name r) where
  build_congr {find find'} h := by
    have hname : find name = find' name := h _ (List.mem_singleton.2 rfl)
    simp only [required, hname]
  check_of_build {find a} h := by
    intro field hfield d hd
    cases List.mem_singleton.1 hfield
    obtain ⟨d', hd', hr⟩ := build_required.1 h
    cases hd.symm.trans hd'
    exact map_eq_ok.2 ⟨a, hr, rfl⟩

instance (r : Reader α) (default : α) : Lawful (optional name r default) where
  build_congr {find find'} h := by
    have hname : find name = find' name := h _ (List.mem_singleton.2 rfl)
    simp only [optional, hname]
  check_of_build {find a} h := by
    intro field hfield d hd
    cases List.mem_singleton.1 hfield
    rcases build_optional.1 h with ⟨d', hd', hr⟩ | ⟨hnone, -⟩
    · cases hd.symm.trans hd'
      exact map_eq_ok.2 ⟨a, hr, rfl⟩
    · exact absurd (hd.symm.trans hnone) nofun

instance (f : α → β) (r : Record α) [Lawful r] : Lawful (f <$> r) where
  build_congr h := congrArg (Except.map f) (Lawful.build_congr h)
  check_of_build h := by
    obtain ⟨a, ha, -⟩ := build_map.1 h
    exact Lawful.check_of_build (r := r) ha

instance (f : Record (α → β)) (r : Record α) [Lawful f] [Lawful r] : Lawful (f <*> r) where
  build_congr {find find'} h := by
    have hf : f.build find = f.build find' := by
      apply Lawful.build_congr
      intro field hfield
      exact h field (List.mem_append_left _ hfield)
    have hr : r.build find = r.build find' := by
      apply Lawful.build_congr
      intro field hfield
      exact h field (List.mem_append_right _ hfield)
    show (f.build find >>= fun g => r.build find >>= fun a => pure (g a)) = _
    rw [hf, hr]
    rfl
  check_of_build h := by
    obtain ⟨g, hg, a, ha, -⟩ := build_seq.1 h
    intro field hfield
    rcases List.mem_append.1 hfield with hfield | hfield
    · exact Lawful.check_of_build hg field hfield
    · exact Lawful.check_of_build ha field hfield

/-! ## Reading objects -/

/-- The entries of a finished object, as drafts. -/
def draftEntries (fields : Entries Json) : List (Option String × Draft) :=
  fields.map fun e => (some e.1, .ofValue e.2)

theorem findEntry?_draftEntries (name : String) (fields : Entries Json) :
    findEntry? name (draftEntries fields) = (fields.find? name).map .ofValue := by
  induction fields with
  | nil => rfl
  | cons e rest ih =>
    show (if some e.1 = some name then some (.ofValue e.2)
        else findEntry? name (draftEntries rest)) =
      (if e.1 = name then some e.2 else Entries.find? name rest).map Draft.ofValue
    rw [ih]
    by_cases hname : e.1 = name
    · simp [hname]
    · simp [hname]

theorem read_object_eq (r : Record α) (type : String) (fields : Entries Json) :
    r.read type (.ofValue (.object fields)) = (do
      checkEntries r.fields [] (draftEntries fields)
      r.build fun name => (fields.find? name).map .ofValue) := by
  have hfind : (fun name => findEntry? name (draftEntries fields)) =
      fun name => (fields.find? name).map .ofValue := by
    funext name
    exact findEntry?_draftEntries name fields
  rw [← hfind]
  rfl

theorem checkEntries_cons (known : List Field) (seen : List String) (e : String × Json)
    (rest : Entries Json) :
    checkEntries known seen (draftEntries (e :: rest)) =
      match known.find? (·.name = e.1) with
      | none => checkEntries known seen (draftEntries rest)
      | some field =>
        if e.1 ∈ seen then .error (.repeatedField e.1)
        else field.check (.ofValue e.2) >>= fun _ =>
          checkEntries known (e.1 :: seen) (draftEntries rest) := rfl

/-- Entries with different keys are fine if all known ones can be read. -/
theorem checkEntries_eq_ok {known : List Field} {fields : Entries Json} {seen : List String}
    (hascending : fields.Ascending) (hseen : ∀ e ∈ fields, e.1 ∉ seen)
    (hcheck : ∀ field ∈ known, ∀ e ∈ fields, field.name = e.1 →
      field.check (.ofValue e.2) = .ok ()) :
    checkEntries known seen (draftEntries fields) = .ok () := by
  induction fields generalizing seen with
  | nil => rfl
  | cons e rest ih =>
    obtain ⟨hlt, hrest⟩ := Entries.ascending_cons.1 hascending
    have hchecks : ∀ field ∈ known, ∀ e' ∈ rest, field.name = e'.1 →
        field.check (.ofValue e'.2) = .ok () := by
      intro field hfield e' he'
      exact hcheck field hfield e' (List.mem_cons_of_mem e he')
    rw [checkEntries_cons]
    cases hknown : known.find? (·.name = e.1) with
    | none => exact ih hrest (fun e' he' => hseen e' (List.mem_cons_of_mem e he')) hchecks
    | some field =>
      have hname : field.name = e.1 := by simpa using List.find?_some hknown
      have hfield : field ∈ known := List.mem_of_find?_eq_some hknown
      have hthis := hcheck field hfield e List.mem_cons_self hname
      simp only [if_neg (hseen e List.mem_cons_self), hthis]
      apply ih hrest _ hchecks
      intro e' he' hmem
      rcases List.mem_cons.1 hmem with heq | hmem
      · exact String.lt_irrefl _ (heq ▸ hlt e' he')
      · exact hseen e' (List.mem_cons_of_mem e he') hmem

/-- **An object is read** as soon as its fields give a structure. -/
theorem read_object {r : Record α} [Lawful r] {type : String} {fields : Entries Json} {a : α}
    (hascending : fields.Ascending)
    (h : r.build (fun name => (fields.find? name).map .ofValue) = .ok a) :
    r.read type (.ofValue (.object fields)) = .ok a := by
  have hcheck : checkEntries r.fields [] (draftEntries fields) = .ok () := by
    apply checkEntries_eq_ok hascending (fun _ _ => List.not_mem_nil)
    intro field hfield e he hname
    apply Lawful.check_of_build h field hfield
    rw [hname, Entries.find?_of_mem hascending he]
    rfl
  rw [read_object_eq, hcheck]
  exact h

/-- A written object is read as soon as its fields give a structure. -/
theorem read_ofFields {r : Record α} [Lawful r] {type : String} {fields : Entries Json} {a : α}
    (h : r.build (fun name => (Entries.find? name fields.reverse).map .ofValue) = .ok a) :
    r.read type (.ofValue (.ofFields fields)) = .ok a := by
  apply read_object (Entries.ascending_sorted fields)
  simpa only [Entries.find?_sorted] using h

/-- **Entries under names that are no fields have no say.** -/
theorem read_filter (r : Record α) [Lawful r] (type : String) {keep : String → Bool}
    (hkeep : ∀ name ∈ r.fields.map (·.name), keep name = true) (fields : Entries Json) :
    r.read type (.ofValue (.object (fields.filter (keep ·.1)))) =
      r.read type (.ofValue (.object fields)) := by
  have hfields : ∀ field ∈ r.fields, keep field.name = true := by
    intro field hfield
    exact hkeep field.name (List.mem_map_of_mem hfield)
  have hcheck : ∀ seen, checkEntries r.fields seen (draftEntries (fields.filter (keep ·.1))) =
      checkEntries r.fields seen (draftEntries fields) := by
    induction fields with
    | nil => exact fun _ => rfl
    | cons e rest ih =>
      intro seen
      by_cases he : keep e.1 = true
      · simp only [List.filter_cons, he, if_true, checkEntries_cons, ih]
      · have hnone : r.fields.find? (·.name = e.1) = none := by
          rw [List.find?_eq_none]
          intro field hfield hname
          rw [← of_decide_eq_true hname] at he
          exact he (hfields field hfield)
        simp [he, checkEntries_cons, hnone, ih]
  have hbuild :
      r.build (fun name => (Entries.find? name (fields.filter (keep ·.1))).map .ofValue) =
      r.build fun name => (fields.find? name).map .ofValue := by
    apply Lawful.build_congr
    intro field hfield
    rw [Entries.find?_filter (hfields field hfield)]
  rw [read_object_eq, read_object_eq, hcheck, hbuild]

/-- **A record reads its own fields alone.** -/
theorem read_ofTable_congr (r : Record α) [r.Lawful] (type : String) {s t : Table Json}
    (h : ∀ name ∈ r.fields.map (·.name), s.find? name = t.find? name) :
    r.read type (.ofValue (.ofTable s)) = r.read type (.ofValue (.ofTable t)) := by
  let keep (name : String) : Bool := decide (name ∈ r.fields.map (·.name))
  have hkeep : ∀ name ∈ r.fields.map (·.name), keep name = true := fun name => decide_eq_true
  have hfilter : s.entries.filter (keep ·.1) = t.entries.filter (keep ·.1) :=
    Entries.filter_eq_of_agree s.ascending t.ascending fun name hname =>
      h name (of_decide_eq_true hname)
  rw [Json.ofTable, Json.ofTable, ← r.read_filter type hkeep s.entries, hfilter,
    r.read_filter type hkeep t.entries]

/-- The draft of a field in the draft of the whole. -/
def part? (r : Record α) (d : Draft) (name : String) : Option Draft :=
  match d.unfold with
  | .object entries _ => findEntry? name entries
  | .array items _ => findItem? name r.fields items
  | _ => none

theorem part?_ofTable (r : Record α) (fields : Table Json) (name : String) :
    r.part? (.ofValue (.ofTable fields)) name = (fields.find? name).map .ofValue :=
  findEntry?_draftEntries name fields.entries

/-- Whatever was read was built from the drafts of its fields. -/
theorem build_of_read {r : Record α} {type : String} {d : Draft} {a : α}
    (h : r.read type d = .ok a) : r.build (r.part? d) = .ok a := by
  unfold read at h
  split at h
  · rename_i entries ending hunfold
    have hpart : r.part? d = fun name => findEntry? name entries := by
      funext name
      simp only [part?, hunfold]
    obtain ⟨-, -, h⟩ := bind_eq_ok.1 h
    split at h
    · rwa [hpart]
    · exact absurd h nofun
  · rename_i items ending hunfold
    have hpart : r.part? d = fun name => findItem? name r.fields items := by
      funext name
      simp only [part?, hunfold]
    obtain ⟨-, -, h⟩ := bind_eq_ok.1 h
    rwa [hpart]
  · exact absurd h nofun

theorem exists_build_of_read {r : Record α} {type : String} {d : Draft} {a : α}
    (h : r.read type d = .ok a) : ∃ find, r.build find = .ok a :=
  ⟨r.part? d, build_of_read h⟩

end Record

/-! ## Faithful readers -/

/-- All that the reader has read it reads again, once that is written. -/
def Reader.Faithful {α : Type} (r : Reader α) (write : α → Json) : Prop :=
  ∀ d a, r d = .ok a → r (.ofValue (write a)) = .ok a

namespace Reader

variable {α : Type} {r : Reader α} {write : α → Json}

theorem exists_of_mem_items {ds : List Draft} {as : List α} (h : items r ds = .ok as) :
    ∀ a ∈ as, ∃ d, r d = .ok a := by
  induction ds generalizing as with
  | nil =>
    cases h
    exact fun _ h => absurd h List.not_mem_nil
  | cons d rest ih =>
    obtain ⟨a, ha, h⟩ := bind_eq_ok.1 h
    obtain ⟨as', has', h⟩ := bind_eq_ok.1 h
    cases h
    intro b hb
    rcases List.mem_cons.1 hb with rfl | hb
    · exact ⟨d, ha⟩
    · exact ih has' b hb

theorem exists_of_mem_entries {ds : List (Option String × Draft)} {es : Entries α}
    (h : entries r ds = .ok es) : ∀ e ∈ es, ∃ d, r d = .ok e.2 := by
  induction ds generalizing es with
  | nil =>
    cases h
    exact fun _ h => absurd h List.not_mem_nil
  | cons head rest ih =>
    obtain ⟨_ | key, d⟩ := head
    · exact absurd h nofun
    · obtain ⟨a, ha, h⟩ := bind_eq_ok.1 h
      obtain ⟨es', hes', h⟩ := bind_eq_ok.1 h
      cases h
      intro e he
      rcases List.mem_cons.1 he with rfl | he
      · exact ⟨d, ha⟩
      · exact ih hes' e he

theorem Faithful.list (h : Faithful r write) :
    Faithful (list r) fun as => .array (as.map write) := by
  intro d as hread
  apply list_written
  intro a ha
  unfold Reader.list at hread
  split at hread
  · obtain ⟨as', has', hread⟩ := bind_eq_ok.1 hread
    split at hread
    · cases hread
      obtain ⟨d', hd'⟩ := exists_of_mem_items has' a ha
      exact h d' a hd'
    · exact absurd hread nofun
  · exact absurd hread nofun

theorem Faithful.table (h : Faithful r write) :
    Faithful (table r) fun t => .ofTable (t.map write) := by
  intro d t hread
  apply table_written
  intro e he
  unfold Reader.table at hread
  split at hread
  · obtain ⟨es, hes, hread⟩ := bind_eq_ok.1 hread
    split at hread
    · cases hread
      obtain ⟨d', hd'⟩ := exists_of_mem_entries hes e (Entries.mem_of_mem_sorted he)
      exact h d' e.2 hd'
    · exact absurd hread nofun
  · exact absurd hread nofun

/-! ### Changing what was read -/

theorem entries_map {β : Type} (r : Reader α) (f : α → β) (ds : List (Option String × Draft)) :
    entries (fun d => (r d).map f) ds = (entries r ds).map (·.map fun e => (e.1, f e.2)) := by
  induction ds with
  | nil => rfl
  | cons head rest ih =>
    obtain ⟨_ | key, d⟩ := head
    · rfl
    · simp only [entries, ih]
      cases r d with
      | error e => rfl
      | ok a => cases entries r rest <;> rfl

theorem table_map {β : Type} (r : Reader α) (f : α → β) (d : Draft) :
    table (fun d => (r d).map f) d = (table r d).map (Table.map f) := by
  unfold table
  split
  · rename_i ds ending _
    rw [entries_map]
    cases entries r ds with
    | error e => rfl
    | ok es =>
      simp only [bind, Except.bind, Except.map]
      split
      · rw [Table.ofEntries_map]
      · rfl
  · rfl

end Reader

namespace Record

variable {α : Type} {name : String} {find find' : String → Option Draft} {r : Reader α}
  {write : α → Json} {a : α}

/-- A field that was read is read again from what is written. -/
theorem rebuild_required (hr : r.Faithful write) (h : (required name r).build find = .ok a)
    (hfind : find' name = some (.ofValue (write a))) : (required name r).build find' = .ok a := by
  obtain ⟨d, -, hd⟩ := build_required.1 h
  exact build_required.2 ⟨_, hfind, hr d a hd⟩

/-- A field that was read or took its default is read again from what is written. -/
theorem rebuild_optional {default : α} (hr : r.Faithful write)
    (hdefault : r (.ofValue (write default)) = .ok default)
    (h : (optional name r default).build find = .ok a)
    (hfind : find' name = some (.ofValue (write a))) :
    (optional name r default).build find' = .ok a := by
  apply build_optional.2
  left
  refine ⟨_, hfind, ?_⟩
  rcases build_optional.1 h with ⟨d, -, hd⟩ | ⟨-, rfl⟩
  · exact hr d a hd
  · exact hdefault

end Record

/-! ## The first reader that takes a value -/

/-- The first level of a draft is that of a value. -/
def Draft.Shows (d : Draft) : Json → Prop
  | .null => d.unfold = .null
  | .bool b => d.unfold = .bool b
  | .number n => d.unfold = .number (some n)
  | .string s => d.unfold = .string (some s)
  | .array _ => ∃ items ending, d.unfold = .array items ending
  | .object _ => ∃ entries ending, d.unfold = .object entries ending

theorem Draft.shows_of_value? {d : Draft} {j : Json} (h : d.value? = some j) : d.Shows j := by
  cases d with
  | missing | deep _ => cases h
  | null | bool _ =>
    cases h
    rfl
  | number _ | string _ =>
    obtain ⟨_, rfl, rfl⟩ := Option.map_eq_some_iff.1 h
    rfl
  | array parts ending | object parts ending =>
    simp only [value?] at h
    split at h
    · obtain ⟨_, -, rfl⟩ := Option.map_eq_some_iff.1 h
      exact ⟨parts, ending, rfl⟩
    · cases h
  | ofValue _ =>
    cases h
    cases j with
    | null | bool _ | number _ | string _ => rfl
    | array _ | object _ => exact ⟨_, _, rfl⟩

namespace Reader

variable {α : Type} {d : Draft} {j : Json} {type : String} {readers : List (Reader α)}

theorem any_eq_ok_iff : any d = .ok j ↔ d.value? = some j := by
  unfold any
  cases d.value? <;> simp

/-- Of what is JSON as a whole, the scores are read as scores. -/
theorem toOption_score_of_any (h : any d = .ok j) : (score d).toOption = j.score? := by
  have hshows := Draft.shows_of_value? (any_eq_ok_iff.1 h)
  unfold score
  cases j with
  | null | bool _ | string _ =>
    rw [show d.unfold = _ from hshows]
    rfl
  | number n =>
    rw [show d.unfold = _ from hshows]
    cases n with
    | real _ => rfl
    | whole n =>
      simp only [Json.score?]
      cases Score.ofInt? n <;> rfl
  | array _ | object _ =>
    obtain ⟨_, _, hunfold⟩ := hshows
    rw [hunfold]
    rfl

theorem toOption_text_of_any (h : any d = .ok j) : (text d).toOption = j.string? := by
  have hshows := Draft.shows_of_value? (any_eq_ok_iff.1 h)
  unfold text
  cases j with
  | null | bool _ | number _ | string _ =>
    rw [show d.unfold = _ from hshows]
    rfl
  | array _ | object _ =>
    obtain ⟨_, _, hunfold⟩ := hshows
    rw [hunfold]
    rfl

theorem toOption_map {β : Type} (x : Except ReadError α) (f : α → β) :
    (x.map f).toOption = x.toOption.map f := by
  cases x <;> rfl

theorem firstOf_of_any (h : any d = .ok j) :
    firstOf type readers d =
      (readers.findSome? fun r => (r d).toOption).elim (.error (.unmatched type)) .ok := by
  unfold firstOf
  simp only [h, bind, Except.bind]
  cases readers.findSome? fun r => (r d).toOption <;> rfl

/-- **Readers in turn** read what the first of them takes, and that may be known from the value. -/
theorem firstOf_eq {take : Json → Option α}
    (htake : ∀ j, any d = .ok j → (readers.findSome? fun r => (r d).toOption) = take j) :
    firstOf type readers d = any d >>= fun j => (take j).elim (.error (.unmatched type)) .ok := by
  cases hany : any d with
  | error e =>
    unfold firstOf
    rw [hany]
    rfl
  | ok j =>
    rw [firstOf_of_any hany, htake j hany]
    rfl

end Reader

end Percentile
