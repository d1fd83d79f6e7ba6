import Mathlib.Data.List.Basic
import Percentile.Proofs.Records
import Percentile.Rule.Value

/-!
# Host data in attributes

The host writes into the attributes of an item what it likes and wants it back as it was. The engine
looks at one of them, the rating, and only if it is a number.

**Two ways to an attribute** (`Attribute.read_eq`). An attribute is read by trying a score first and
any value after that, or it is made of a value by a look at its shape. Both ways lead to the same,
whatever the value.

**Nothing is lost** (`Attribute.toJson_ofJson`, `Attribute.table_read_eq`). An attribute is written
as the value that it was made of, and so are all of them.

**Ratings** (`Item.scoreAt_of_read`). The number that an item has under a key is the whole number
that stands there in the draft of the item.

**Theorem (`Item.attributes_pass_through`).** Host data, single attributes, and ratings.
-/

namespace Percentile

open Reader Record

/-! ## Single attributes -/

namespace Attribute

@[simp] theorem toJson_ofJson (j : Json) : (ofJson j).toJson = j := by
  unfold ofJson
  cases hscore : j.score? with
  | none => rfl
  | some n => exact (Json.score?_eq_some_iff.1 hscore).symm

@[simp] theorem score?_ofJson (j : Json) : (ofJson j).score? = j.score? := by
  unfold ofJson
  cases j.score? <;> rfl

/-- **Both ways agree**: what is read is what is made of the value as a whole. -/
theorem read_eq (d : Draft) : read d = (any d).map ofJson := by
  have hread : read d =
      any d >>= fun j => (some (ofJson j)).elim (.error (.unmatched "AttributeValue")) .ok := by
    apply firstOf_eq
    intro j hany
    simp only [List.findSome?, toOption_map, toOption_score_of_any hany, hany]
    unfold ofJson
    cases j.score? <;> rfl
  rw [hread]
  cases any d <;> rfl

theorem table_read_eq (d : Draft) : table read d = (table any d).map (Table.map ofJson) := by
  have hread : read = fun d => (any d).map ofJson := funext read_eq
  rw [hread, table_map]

end Attribute

theorem Table.map_toJson_map_ofJson (raw : Table Json) :
    (raw.map Attribute.ofJson).map Attribute.toJson = raw := by
  apply Table.ext_find?
  intro key
  rw [Table.find?_map, Table.find?_map]
  cases raw.find? key <;> simp

theorem Reader.table_any_ofTable (raw : Table Json) :
    table any (.ofValue (.ofTable raw)) = .ok raw := by
  have hmap : raw.map id = raw := by
    apply Table.ext_find?
    intro key
    rw [Table.find?_map, Option.map_id_fun, id_eq]
  have hwritten : table any (.ofValue (.ofTable (raw.map id))) = .ok raw :=
    table_written fun e _ => any_ofValue e.2
  rwa [hmap] at hwritten

/-! ## Attributes of items -/

namespace Item

/-- What stands under a key in the attributes of the draft of an item. -/
def attributeJson? (d : Draft) (key : String) : Option Json := do
  let attributes ← record.part? d "attributes"
  let raw ← (table any attributes).toOption
  raw.find? key

/-- In a finished object the attributes are a field, and the value stands there. -/
theorem attributeJson?_ofTable {fields raw : Table Json}
    (h : fields.find? "attributes" = some (.ofTable raw)) (key : String) :
    attributeJson? (.ofValue (.ofTable fields)) key = raw.find? key := by
  simp only [attributeJson?, part?_ofTable, h, Option.map_some, bind, Option.bind_some,
    table_any_ofTable, Except.toOption]

theorem attributeJson?_of_none {fields : Table Json} (h : fields.find? "attributes" = none)
    (key : String) : attributeJson? (.ofValue (.ofTable fields)) key = none := by
  simp only [attributeJson?, part?_ofTable, h, Option.map_none, bind, Option.bind_none]

theorem build_attributes_of_read {d : Draft} {item : Item} (h : Item.read d = .ok item) :
    (Record.optional "attributes" (.table Attribute.read) ∅).build (record.part? d) =
      .ok item.attributes := by
  have hbuild := build_of_read h
  generalize record.part? d = find at hbuild ⊢
  simp only [record, build_seq, build_map] at hbuild
  obtain ⟨_, ⟨_, ⟨_, ⟨_, ⟨id, -, rfl⟩, name, -, rfl⟩, attributes, hattributes, rfl⟩, rules, -, rfl⟩,
    choices, -, rfl⟩ := hbuild
  exact hattributes

/-- **The attributes of an item that was read** are made of what stands in its draft. -/
theorem find?_attributes_of_read {d : Draft} {item : Item} (h : Item.read d = .ok item)
    (key : String) :
    item.attributes.find? key = (attributeJson? d key).map Attribute.ofJson := by
  unfold attributeJson?
  rcases build_optional.1 (build_attributes_of_read h) with ⟨part, hpart, hread⟩ | ⟨hpart, hempty⟩
  · rw [Attribute.table_read_eq] at hread
    obtain ⟨raw, hraw, hattributes⟩ := map_eq_ok.1 hread
    simp only [← hattributes, hpart, hraw, bind, Option.bind_some, Except.toOption, Table.find?_map]
  · simp only [← hempty, hpart, bind, Option.bind_none, Option.map_none, Table.find?_empty]

/-- **The number under a key** is the whole number that stands there in the draft, if it is a
score. -/
theorem scoreAt_of_read {d : Draft} {item : Item} (h : Item.read d = .ok item) (key : String)
    (default : Score) :
    item.scoreAt key default = ((attributeJson? d key).bind Json.score?).getD default := by
  unfold scoreAt attribute?
  rw [find?_attributes_of_read h]
  cases attributeJson? d key <;> simp

theorem rating_of_read {d : Draft} {item : Item} {n : Score} (h : Item.read d = .ok item)
    (hn : attributeJson? d ratingKey = some (.score n)) : item.rating = n := by
  rw [rating, scoreAt_of_read h, hn, Option.bind_some, Json.score?_score, Option.getD_some]

theorem rating_of_read_of_ne {d : Draft} {item : Item} (h : Item.read d = .ok item)
    (hne : ∀ n : Score, attributeJson? d ratingKey ≠ some (.score n)) : item.rating = 0 := by
  have hscore : (attributeJson? d ratingKey).bind Json.score? = none := by
    rw [Option.eq_none_iff_forall_ne_some]
    intro n hn
    obtain ⟨j, hj, hn⟩ := Option.bind_eq_some_iff.1 hn
    rw [Json.score?_eq_some_iff.1 hn] at hj
    exact hne n hj
  rw [rating, scoreAt_of_read h, hscore, Option.getD_none]

/-- **Host data pass through.** All that an object holds is read as attributes and written as it
was. What is read of a value is what the value makes, and it is a number exactly if the value is a
whole number in the range of a score. So an item that was read has the rating that stands in its
draft, and rating zero if anything else stands there or nothing, and rules refer to that rating. -/
theorem attributes_pass_through :
    (∀ raw : Table Json,
      (table Attribute.read).readValue (.ofTable raw) = .ok (raw.map .ofJson) ∧
      Json.ofTable ((raw.map .ofJson).map Attribute.toJson) = .ofTable raw) ∧
    (∀ j : Json, Attribute.read.readValue j = .ok (.ofJson j) ∧
      ∀ n : Score, (Attribute.ofJson j).score? = some n ↔ j = .number (.whole n.toInt)) ∧
    (∀ (d : Draft) (item : Item), Item.read d = .ok item →
      (∀ n : Score, attributeJson? d ratingKey = some (.number (.whole n.toInt)) →
        item.rating = n ∧ RuleValue.rating.resolve item = n) ∧
      ((∀ n : Score, attributeJson? d ratingKey ≠ some (.number (.whole n.toInt))) →
        item.rating = 0 ∧ RuleValue.rating.resolve item = 0)) ∧
    ∀ (fields : Table Json) (key : String),
      (∀ raw : Table Json, fields.find? "attributes" = some (.ofTable raw) →
        attributeJson? (.ofValue (.ofTable fields)) key = raw.find? key) ∧
      (fields.find? "attributes" = none →
        attributeJson? (.ofValue (.ofTable fields)) key = none) := by
  refine ⟨?_, ?_, ?_, ?_⟩
  · intro raw
    constructor
    · rw [readValue, Attribute.table_read_eq, table_any_ofTable]
      rfl
    · rw [Table.map_toJson_map_ofJson]
  · intro j
    refine ⟨?_, fun n => ?_⟩
    · rw [readValue, Attribute.read_eq, any_ofValue]
      rfl
    · rw [Attribute.score?_ofJson, Json.score?_eq_some_iff]
      rfl
  · intro d item h
    refine ⟨fun n hn => ?_, fun hnone => ?_⟩
    · exact ⟨rating_of_read h hn, rating_of_read h hn⟩
    · exact ⟨rating_of_read_of_ne h hnone, rating_of_read_of_ne h hnone⟩
  · intro fields key
    exact ⟨fun raw h => attributeJson?_ofTable h key, fun h => attributeJson?_of_none h key⟩

end Item

/-! ### A lasgun

The host keeps the charge, the serial number and the modes of fire with the rating of the weapon.
The charge is `2.0` and the serial number is the greatest unsigned 64-bit word, so neither is a
number to the engine, and with its charge for a rating the weapon has rating zero.
-/

/-- The number `2.0`. -/
def charge : Json := .number (.real ⟨false, 4503599627370496, -51⟩)

def lasgunData : Table Json := .ofEntries
  [("rating", .int 3), ("charge", charge), ("serial", .int 18446744073709551615),
    ("modes", .array [.string "single", .ofFields [("burst", .int 4)]])]

/-- A lasgun with host data. -/
def lasgun (data : Table Json) : Item where
  name := "Lasgun"
  attributes := data.map .ofJson

def lasgunSource (data : Table Json) : Table Json := .ofEntries
  [("name", .string "Lasgun"), ("attributes", .ofTable data)]

theorem attributes_pass_through_lasgun :
    ((table Attribute.read).readValue (.ofTable lasgunData) = .ok (lasgun lasgunData).attributes ∧
      (lasgun lasgunData).attribute? "serial" = some (.other (.int 18446744073709551615)) ∧
      Json.ofTable ((lasgun lasgunData).attributes.map Attribute.toJson) =
        .ofTable lasgunData) ∧
    (Item.read.readValue (.ofTable (lasgunSource lasgunData)) = .ok (lasgun lasgunData) ∧
      RuleValue.rating.resolve (lasgun lasgunData) = 3) ∧
    let spent := lasgunData.insert "rating" charge
    Item.read.readValue (.ofTable (lasgunSource spent)) = .ok (lasgun spent) ∧
      RuleValue.rating.resolve (lasgun spent) = 0 := by
  obtain ⟨hwhole, -, hrating, hfields⟩ := Item.attributes_pass_through
  obtain ⟨hread, hwritten⟩ := hwhole lasgunData
  refine ⟨⟨hread, by decide +kernel, hwritten⟩, ?_, ?_⟩
  · have hlasgun : Item.read (.ofValue (.ofTable (lasgunSource lasgunData))) =
        .ok (lasgun lasgunData) := by decide +kernel
    refine ⟨hlasgun, ((hrating _ _ hlasgun).1 3 ?_).2⟩
    rw [(hfields (lasgunSource lasgunData) _).1 lasgunData (by decide +kernel)]
    decide +kernel
  · intro spent
    have hspent : Item.read (.ofValue (.ofTable (lasgunSource spent))) = .ok (lasgun spent) := by
      decide +kernel
    refine ⟨hspent, ((hrating _ _ hspent).2 fun n => ?_).2⟩
    rw [(hfields (lasgunSource spent) _).1 spent (by decide +kernel)]
    show some charge ≠ _
    exact nofun

end Percentile
