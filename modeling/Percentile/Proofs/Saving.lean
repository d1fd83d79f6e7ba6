import Percentile.Proofs.Attributes
import Percentile.Proofs.History
import Percentile.Proofs.Records

/-!
# Saved actors

An actor is saved as a JSON value, without its synthetics, because they are derived. This file says
what comes back when that value is read. What becomes of the value on its way through a text is not
its subject: there the real numbers among the host data may come out differently.

**What was read is read again** (`Attribute.read_faithful`, `Item.read_faithful`,
`Actor.read_faithful`). Whole numbers stay whole numbers, and everything else that an item carries
stays as it is. That holds of actors that were read, and not of all that a host may put together:
an attribute that holds a number as if it were none comes back as a number.

**Preparations leave the rest of the actor alone** (`Actor.after_eq`), and a preparation starts
by discarding the synthetics.

**Theorem (`Actor.survives_saving`).** So an actor that was read, prepared and written at any time
comes back from the value without synthetics and otherwise unchanged, and the next preparation makes
the same of it.
-/

namespace Percentile

open Reader Record

/-! ## Attributes and items -/

/-- What counts as a number is written as one, and all else as it is. -/
theorem Attribute.ofJson_toJson (j : Json) : ofJson (ofJson j).toJson = ofJson j := by
  rw [toJson_ofJson]

theorem Attribute.read_faithful : Attribute.read.Faithful Attribute.toJson := by
  intro d a h
  rw [read_eq] at h ⊢
  obtain ⟨j, -, rfl⟩ := map_eq_ok.1 h
  exact map_eq_ok.2 ⟨_, any_ofValue _, ofJson_toJson j⟩

theorem ItemId.read_eq (d : Draft) : ItemId.read d = (word d).map .mk := rfl

theorem ItemId.read_written (id : ItemId) :
    ItemId.read (.ofValue (.int id.raw.toNat)) = .ok id := by
  rw [ItemId.read_eq, word_ofValue]
  rfl

theorem Reader.any_faithful : any.Faithful id := fun _ j _ => any_ofValue j

theorem Reader.text_faithful : text.Faithful .string := fun _ s _ => text_ofValue s

theorem Reader.score_faithful : score.Faithful .score := fun _ n _ => score_ofValue n

instance : Item.record.Lawful := by
  unfold Item.record
  infer_instance

theorem Item.read_faithful : Item.read.Faithful Item.toJson := by
  intro d item h
  obtain ⟨find, h⟩ := exists_build_of_read h
  simp only [record, build_seq, build_map] at h
  obtain ⟨_, ⟨_, ⟨_, ⟨_, ⟨id, hid, rfl⟩, name, hname, rfl⟩, attributes, hattributes, rfl⟩,
    rules, hrules, rfl⟩, choices, hchoices, rfl⟩ := h
  have hany : (list any).Faithful .array := by
    simpa only [List.map_id] using Reader.any_faithful.list
  apply read_ofFields
  simp only [record, build_seq, build_map]
  refine ⟨_, ⟨_, ⟨_, ⟨_, ⟨id, ?_, rfl⟩, name, ?_, rfl⟩, attributes, ?_, rfl⟩, rules, ?_, rfl⟩,
    choices, ?_, rfl⟩
  · exact rebuild_optional (fun _ id _ => id.read_written) (ItemId.read_written _) hid
      (by simp [Entries.find?])
  · exact rebuild_required Reader.text_faithful hname (by simp [Entries.find?])
  · exact rebuild_optional Attribute.read_faithful.table rfl hattributes (by simp [Entries.find?])
  · exact rebuild_optional hany rfl hrules (by simp [Entries.find?])
  · exact rebuild_optional Reader.text_faithful.table rfl hchoices (by simp [Entries.find?])

/-! ## Actors -/

theorem ActorId.read_eq (d : Draft) : ActorId.read d = (word d).map .mk := rfl

theorem ActorId.read_written (id : ActorId) : ActorId.read (.ofValue id.toJson) = .ok id := by
  unfold toJson
  rw [ActorId.read_eq, word_ofValue]
  rfl

namespace Actor

instance : Actor.record.Lawful := by
  unfold Actor.record
  infer_instance

theorem synthetics_of_read {d : Draft} {a : Actor} (h : Actor.read d = .ok a) :
    a.synthetics = ∅ := by
  obtain ⟨find, h⟩ := exists_build_of_read h
  simp only [record, build_seq, build_map] at h
  obtain ⟨_, ⟨_, ⟨_, ⟨_, _, rfl⟩, _, _, rfl⟩, _, _, rfl⟩, _, _, rfl⟩ := h
  rfl

theorem read_faithful : Actor.read.Faithful Actor.toJson := by
  intro d a h
  obtain ⟨find, h⟩ := exists_build_of_read h
  simp only [record, build_seq, build_map] at h
  obtain ⟨_, ⟨_, ⟨_, ⟨id, hid, rfl⟩, name, hname, rfl⟩, characteristics, hcharacteristics, rfl⟩,
    items, hitems, rfl⟩ := h
  apply read_ofFields
  simp only [record, build_seq, build_map]
  refine ⟨_, ⟨_, ⟨_, ⟨id, ?_, rfl⟩, name, ?_, rfl⟩, characteristics, ?_, rfl⟩, items, ?_, rfl⟩
  · exact rebuild_optional (fun _ id _ => id.read_written) (ActorId.read_written _) hid
      (by simp [Entries.find?])
  · exact rebuild_required Reader.text_faithful hname (by simp [Entries.find?])
  · exact rebuild_optional Reader.score_faithful.table rfl hcharacteristics
      (by simp [Entries.find?])
  · exact rebuild_optional Item.read_faithful.list rfl hitems (by simp [Entries.find?])

/-! ## Preparations and saving -/

/-- The event is one phase of a preparation, or both. -/
def Event.prepares : Event → Bool
  | .discard | .run _ | .prepare _ => true
  | .edit _ => false

/-- Preparations change the synthetics of an actor alone. -/
theorem after_eq {history : List Event} (h : ∀ e ∈ history, e.prepares = true) (a : Actor) :
    ∃ s, a.after history = { a with synthetics := s } := by
  induction history generalizing a with
  | nil => exact ⟨a.synthetics, rfl⟩
  | cons e later ih =>
    have hlater : ∀ e' ∈ later, e'.prepares = true := by
      intro e' he'
      exact h e' (List.mem_cons_of_mem e he')
    have hstep : ∃ s, a.undergo e = { a with synthetics := s } := by
      cases e with
      | discard => exact ⟨_, rfl⟩
      | run r => exact ⟨_, rfl⟩
      | prepare r => exact ⟨_, rfl⟩
      | edit f => exact absurd (h _ List.mem_cons_self) nofun
    obtain ⟨s, hs⟩ := hstep
    obtain ⟨s', hs'⟩ := ih hlater (a.undergo e)
    refine ⟨s', ?_⟩
    show (a.undergo e).after later = _
    rw [hs', hs]

/-- Synthetics are not written. -/
theorem field?_toJson (a : Actor) : a.toJson.field? "synthetics" = none := by
  unfold toJson
  rw [Json.field?_ofFields]
  simp [Entries.find?]

/-- Synthetics are not read. -/
theorem readValue_filter (fields : Entries Json) :
    Actor.read.readValue (.object (fields.filter (·.1 ≠ "synthetics"))) =
      Actor.read.readValue (.object fields) := by
  have hnames : ∀ name ∈ record.fields.map (·.name), decide (name ≠ "synthetics") = true := by
    decide
  exact read_filter record "Actor" hnames fields

/-- **An actor comes back from the value that it is written as.** An actor that was read, and then
prepared or not, is written as a JSON value, and that value is read. The actor comes back without
synthetics and otherwise as it was read, and any preparation makes of it what it makes of the old
one. What stands under the name of the synthetics is not read, and nothing is written there. -/
theorem survives_saving {d : Draft} {a : Actor} (hread : Actor.read d = .ok a)
    (history : List Event) (hhistory : ∀ e ∈ history, e.prepares = true) :
    (∃ b, Actor.read.readValue (a.after history).toJson = .ok b ∧ b.synthetics = ∅ ∧
      (b.id = a.id ∧ b.name = a.name ∧ b.characteristics = a.characteristics ∧
        b.items = a.items) ∧
      ∀ r : Registry, (b.prepareData r).2 = (a.prepareData r).2 ∧
        (b.prepareData r).1.synthetics = (a.prepareData r).1.synthetics ∧
        (b.prepareData r).1.toughness = (a.prepareData r).1.toughness ∧
        (a.after history).prepareData r = a.prepareData r) ∧
    (a.after history).toJson.field? "synthetics" = none ∧
    ∀ fields : Entries Json,
      Actor.read.readValue (.object (fields.filter (·.1 ≠ "synthetics"))) =
        Actor.read.readValue (.object fields) := by
  obtain ⟨s, hafter⟩ := after_eq hhistory a
  rw [hafter]
  refine ⟨⟨a, read_faithful d a hread, synthetics_of_read hread, ⟨rfl, rfl, rfl, rfl⟩, ?_⟩,
    field?_toJson _, readValue_filter⟩
  intro r
  exact ⟨rfl, rfl, rfl, rfl⟩

end Actor

/-! ### An ogre

The sheet of the ogre has synthetics from elsewhere, a weight that is no whole number, and a rule
that no registry knows yet.
-/

/-- The number `4.5`. -/
def weight : Json := .number (.real ⟨false, 5066549580791808, -50⟩)

def carapace : Item where
  name := "Carapace"
  attributes := .ofEntries [("rating", .int 2), ("weight", .other weight)]
  rules := [.ofFields [("key", .string "AdjustToughness"), ("value", .string "rating")],
    .ofFields [("key", .string "Levitate"), ("height", .int 3)]]

def ogre : Actor where
  name := "Ogre"
  characteristics := .ofEntries [("t", 45)]
  items := [carapace]

def ogreSheet : Json := .ofFields
  [("name", .string "Ogre"),
   ("synthetics", .string "stale"),
   ("characteristics", .ofFields [("t", .int 45)]),
   ("items", .array [.ofFields
     [("name", .string "Carapace"),
      ("attributes", .ofFields [("rating", .int 2), ("weight", weight)]),
      ("rules", .array carapace.rules)]])]

theorem survives_saving_ogre :
    Actor.read.readValue ogreSheet = .ok ogre ∧
    ∃ b, Actor.read.readValue (ogre.after [.prepare .builtin]).toJson = .ok b ∧
      b.items = [carapace] ∧ (b.prepareData .builtin).1.toughness = 47 := by
  have hread : Actor.read (.ofValue ogreSheet) = .ok ogre := by decide +kernel
  have hprepares : ∀ e ∈ [Actor.Event.prepare .builtin], e.prepares = true := by
    intro e he
    rw [List.mem_singleton.1 he]
    rfl
  obtain ⟨⟨b, hb, _, ⟨_, _, _, hitems⟩, hprepared⟩, _⟩ :=
    Actor.survives_saving hread [.prepare .builtin] hprepares
  obtain ⟨_, _, htoughness, _⟩ := hprepared .builtin
  refine ⟨hread, b, hb, hitems, ?_⟩
  rw [htoughness]
  decide +kernel

end Percentile
