import Mathlib.Data.List.Induction
import Percentile.Proofs.Reach

/-!
# Where synthetics come from

Everything in the synthetics of an actor has been written there by a rule of an item. This file says
what that comes to for synthetics that preparations have made from empty ones, with whatever
registries and items.

**Passes.** A preparation is a list of *passes*, each with its registry and its items. An actor that
starts without synthetics has at all times those of some passes (`Actor.exists_passes`).

**One induction for all invariants** (`Synthetics.ofPasses_induction`). What holds of empty
synthetics and is kept by each element with a declared rule holds after all passes. A factory may
give any rule at all, so an invariant cannot rely on how a rule was read.

**One law for all entries** (`Synthetics.found_ofPasses_iff`). What can be found in a sum exactly if
it can be found in a summand is there after all passes exactly if one rule source has put it there.

**The invariant** (`Synthetics.Sound`). No domain, roll option or type of damage in the synthetics
is empty, no domain is without entries, and what checks read from them is what rules of items say.

**Theorem (`prepared_wellFormed`).** Nothing is empty, every modifier stems from a flat modifier
that is declared for its domain, and every such rule has its modifier there.
-/

namespace Percentile

/-! ## Passes -/

/-- One pass of a preparation. -/
structure Pass where
  /-- The registry that turns rule sources into elements. -/
  registry : Registry
  /-- The items whose rules are run. -/
  items : List Item

/-- An item of the pass declares a rule: one of its sources gives an element with it. -/
def Pass.Declares (p : Pass) (item : Item) (rule : Rule) : Prop :=
  item ∈ p.items ∧
    ∃ source ∈ item.rules, ∃ e, p.registry.element? source item = some e ∧ e.rule = rule

/-- What passes make of empty synthetics, one after the other. -/
def Synthetics.ofPasses (passes : List Pass) : Synthetics :=
  passes.foldl (fun s p => (p.registry.prepare p.items s).1) ∅

namespace Registry

variable (r : Registry) {item : Item} {source : Json}

theorem runSource_fst_of_none (h : r.element? source item = none)
    (acc : Synthetics × PreparationStats) : (r.runSource item acc source).1 = acc.1 := by
  unfold runSource
  rw [h]

theorem runSource_fst_of_some {e : Element} (h : r.element? source item = some e)
    (acc : Synthetics × PreparationStats) :
    (r.runSource item acc source).1 = (e.prepare item acc.1).1 := by
  unfold runSource
  simp only [h]
  cases e.prepare item acc.1 with
  | mk s verdict => cases verdict <;> rfl

/-- What every element with a declared rule keeps, a pass keeps. -/
theorem prepare_induction {motive : Synthetics → Prop} {items : List Item} {s : Synthetics}
    (start : motive s)
    (step : ∀ item (e : Element), Pass.Declares ⟨r, items⟩ item e.rule →
      ∀ t, motive t → motive (e.prepare item t).1) :
    motive (r.prepare items s).1 := by
  have hsource : ∀ item ∈ items, ∀ source ∈ item.rules, ∀ acc : Synthetics × PreparationStats,
      motive acc.1 → motive (r.runSource item acc source).1 := by
    intro item hitem source hsource acc hacc
    cases helement : r.element? source item with
    | none =>
      rw [r.runSource_fst_of_none helement]
      exact hacc
    | some e =>
      rw [r.runSource_fst_of_some helement]
      exact step item e ⟨hitem, source, hsource, e, helement, rfl⟩ acc.1 hacc
  have hitem : ∀ item ∈ items, ∀ acc : Synthetics × PreparationStats,
      motive acc.1 → motive (r.runItem acc item).1 := by
    intro item hitem acc hacc
    exact List.foldlRecOn (motive := fun acc => motive acc.1) item.rules _ hacc
      fun acc hacc source hmem => hsource item hitem source hmem acc hacc
  have hstart : motive (s, ({} : PreparationStats)).1 := start
  exact List.foldlRecOn (motive := fun acc => motive acc.1) items _ hstart
    fun acc hacc item hmem => hitem item hmem acc hacc

end Registry

namespace Synthetics

/-- **What every element with a declared rule keeps, all passes keep.** -/
theorem ofPasses_induction {motive : Synthetics → Prop} {passes : List Pass} (empty : motive ∅)
    (step : ∀ p ∈ passes, ∀ item (e : Element), p.Declares item e.rule →
      ∀ t, motive t → motive (e.prepare item t).1) :
    motive (ofPasses passes) := by
  unfold ofPasses
  refine List.foldlRecOn passes _ empty ?_
  intro s hs p hp
  exact p.registry.prepare_induction hs (step p hp)

theorem ofPasses_append_singleton (passes : List Pass) (p : Pass) :
    ofPasses (passes ++ [p]) = (p.registry.prepare p.items (ofPasses passes)).1 := by
  simp [ofPasses]

/-- The effects of all rule sources of all passes, one after the other. -/
theorem ofPasses_eq_total (passes : List Pass) :
    ofPasses passes =
      total (passes.flatMap fun p => (p.registry.outcomes p.items).map (·.2)) := by
  induction passes using List.reverseRecOn with
  | nil => rfl
  | append_singleton earlier p ih =>
    rw [ofPasses_append_singleton, p.registry.prepare_fst, ih, List.flatMap_append, total_append]
    simp

section Found

variable (found : Synthetics → Prop) (hempty : ¬ found ∅)
  (happend : ∀ s t, found (s ++ t) ↔ found s ∨ found t)

include hempty happend

theorem found_total_iff (parts : List Synthetics) :
    found (total parts) ↔ ∃ s ∈ parts, found s := by
  induction parts with
  | nil => exact iff_of_false hempty (by simp)
  | cons s rest ih => simp [happend, ih]

/-- **What is found after all passes** is found in the effect of one rule source. -/
theorem found_ofPasses_iff (passes : List Pass) :
    found (ofPasses passes) ↔ ∃ p ∈ passes, ∃ item ∈ p.items, ∃ source ∈ item.rules,
      found (p.registry.effect item source) := by
  rw [ofPasses_eq_total, found_total_iff found hempty happend]
  constructor
  · intro ⟨s, hs, hfound⟩
    obtain ⟨p, hp, hs⟩ := List.mem_flatMap.1 hs
    obtain ⟨o, ho, rfl⟩ := List.mem_map.1 hs
    obtain ⟨item, hitem, ho⟩ := List.mem_flatMap.1 ho
    obtain ⟨source, hsource, rfl⟩ := List.mem_map.1 ho
    exact ⟨p, hp, item, hitem, source, hsource, hfound⟩
  · intro ⟨p, hp, item, hitem, source, hsource, hfound⟩
    have houtcome : p.registry.outcome item source ∈ p.registry.outcomes p.items :=
      List.mem_flatMap.2 ⟨item, hitem, List.mem_map_of_mem hsource⟩
    exact ⟨_, List.mem_flatMap.2 ⟨p, hp, List.mem_map_of_mem houtcome⟩, hfound⟩

end Found

end Synthetics

/-- Every key is a text with at least one character, every list has at least one entry, and all
entries are as they have to be under their key. -/
def Table.Filled {α : Type} (t : Table (List α)) (P : String → α → Prop) : Prop :=
  ∀ key as, t.find? key = some as → key ≠ "" ∧ as ≠ [] ∧ ∀ a ∈ as, P key a

namespace Table.Filled

variable {α : Type} {t : Table (List α)} {P Q : String → α → Prop}

theorem imp (h : t.Filled P) (himp : ∀ key a, P key a → Q key a) : t.Filled Q := by
  intro key as has
  obtain ⟨hkey, hne, hentries⟩ := h key as has
  exact ⟨hkey, hne, fun a ha => himp key a (hentries a ha)⟩

/-- What stands under some domains is as it has to be under one of them. -/
theorem along (h : t.Filled P) {domains : List Domain} {a : α} (ha : a ∈ t.along domains) :
    ∃ d ∈ domains, P d.text a := by
  obtain ⟨d, hd, ha⟩ := List.mem_flatMap.1 ha
  obtain ⟨as, has, ha⟩ := mem_listAt.1 ha
  exact ⟨d, hd, (h d.text as has).2.2 a ha⟩

theorem empty : (∅ : Table (List α)).Filled P := by
  intro key as h
  exact absurd h nofun

theorem append (h : t.Filled P) {key : String} {a : α} (hkey : key ≠ "") (ha : P key a) :
    (t.append key a).Filled P := by
  intro key' as has
  rw [Table.append, find?_put] at has
  by_cases hkeys : key = key'
  · subst hkeys
    rw [if_pos rfl, Option.some.injEq] at has
    refine ⟨hkey, by simp [← has], ?_⟩
    intro b hb
    rw [← has, List.mem_append, List.mem_singleton] at hb
    rcases hb with hb | rfl
    · obtain ⟨old, hold, hb⟩ := mem_listAt.1 hb
      exact (h key old hold).2.2 b hb
    · exact ha
  · rw [if_neg hkeys] at has
    exact h key' as has

theorem keys (h : t.Filled P) : t.find? "" = none ∧ ∀ key, t.find? key ≠ some [] := by
  constructor
  · cases hempty : t.find? "" with
    | none => rfl
    | some as => exact absurd rfl (h "" as hempty).1
  · intro key hkey
    exact (h key [] hkey).2.1 rfl

end Table.Filled

/-! ## What a rule may leave behind -/

/-- The modifier is what a flat modifier of an item says: in its number, with the rating of the item
put in, in its group, its predicate, and whether it may be switched. It is switched on. -/
structure Modifier.StemsFrom (m : Modifier) (item : Item) (rule : Rule.FlatModifier) : Prop where
  enabled : m.enabled = true
  toggleable : m.toggleable = rule.toggleable
  value : m.value = match rule.value with
    | .literal n => n
    | .rating => item.rating
  exclusionGroup : m.exclusionGroup = rule.exclusionGroup
  predicate : m.predicate = rule.predicate

/-- Nothing in the synthetics is empty that must not be, and what the checks read from them is what
declared rules say. -/
structure Synthetics.Sound (s : Synthetics) (declared : Item → Rule → Prop) : Prop where
  modifiers : s.modifiers.Filled fun key m => ∃ item rule,
    declared item (.flatModifier rule) ∧ rule.domain.text = key ∧ m.StemsFrom item rule
  diceOverrides : s.diceOverrides.Filled fun key o => ∃ item rule,
    declared item (.diceOverride rule) ∧ rule.domain.text = key ∧ o.mode = rule.mode
  rollOptions : "" ∉ s.rollOptions
  degreeAdjustments : ∀ a ∈ s.degreeAdjustments, ∃ item rule,
    declared item (.adjustDegree rule) ∧ a.amount = rule.amount ∧ a.predicate = rule.predicate
  resistances : ∀ r ∈ s.resistances, r.damageType ≠ ""

theorem Element.stemsFrom_modifier (e : Element) (rule : Rule.FlatModifier) (owner : Item) :
    (e.modifier rule owner).StemsFrom owner rule :=
  ⟨rfl, rfl, rfl, rfl, rfl⟩

namespace Synthetics

variable {declared : Item → Rule → Prop}

theorem sound_empty : (∅ : Synthetics).Sound declared where
  modifiers := .empty
  diceOverrides := .empty
  rollOptions := RollOptions.not_mem_empty _
  degreeAdjustments _ h := absurd h List.not_mem_nil
  resistances _ h := absurd h List.not_mem_nil

theorem Sound.addRollOption {s : Synthetics} (h : s.Sound declared) {tag : String}
    (htag : tag ≠ "") : (s.addRollOption tag).Sound declared :=
  { h with
    rollOptions := fun hmem => (RollOptions.mem_insert.1 hmem).elim (htag ·.symm) h.rollOptions }

/-- **One element.** Each kind of rule looks at the texts that must not be empty before it writes
them. -/
theorem Sound.prepare {s : Synthetics} (h : s.Sound declared) (e : Element) {owner : Item}
    (hdeclared : declared owner e.rule) : (e.prepare owner s).1.Sound declared := by
  obtain ⟨_, label, rule⟩ := e
  cases rule with
  | flatModifier r =>
    simp only [Element.prepare]
    split
    · exact h
    · rename_i hdomain
      exact { h with
        modifiers := h.modifiers.append (by simpa [Domain.isEmpty] using hdomain)
          ⟨owner, r, hdeclared, rfl, Element.stemsFrom_modifier _ r owner⟩ }
  | rollOption r =>
    simp only [Element.prepare]
    split
    · exact h
    · rename_i hoption
      exact h.addRollOption (by simpa using hoption)
  | diceOverride r =>
    simp only [Element.prepare]
    split
    · exact h
    · rename_i hdomain
      exact { h with
        diceOverrides := h.diceOverrides.append (by simpa [Domain.isEmpty] using hdomain)
          ⟨owner, r, hdeclared, rfl, rfl⟩ }
  | adjustDegree r =>
    refine { h with degreeAdjustments := ?_ }
    intro a hmem
    rcases List.mem_append.1 hmem with hold | hnew
    · exact h.degreeAdjustments a hold
    · rw [List.mem_singleton.1 hnew]
      exact ⟨owner, r, hdeclared, rfl, rfl⟩
  | resistance r =>
    simp only [Element.prepare]
    split
    · exact h
    · rename_i hdamageType
      refine { h with resistances := ?_ }
      intro resistance hmem
      rcases List.mem_append.1 hmem with hold | hnew
      · exact h.resistances resistance hold
      · rw [List.mem_singleton.1 hnew]
        simpa using hdamageType
  | adjustToughness r => exact { h with }
  | grantItem r => exact h
  | choiceSet r =>
    simp only [Element.prepare]
    split
    · exact h
    · cases owner.choice? r.flag with
      | none => exact h
      | some stored => exact h.addRollOption (by simp [Rule.ChoiceSet.optionFor])

/-- **All passes.** What preparations leave behind is sound. -/
theorem sound_ofPasses (passes : List Pass) :
    (ofPasses passes).Sound fun item rule => ∃ p ∈ passes, p.Declares item rule := by
  refine ofPasses_induction (motive := (Sound · _)) sound_empty ?_
  intro p hp item e hdeclares t ht
  exact ht.prepare e ⟨p, hp, hdeclares⟩

/-- A flat modifier that an item declares for some domain has its modifier there. -/
theorem exists_stemsFrom {passes : List Pass} {p : Pass} (hp : p ∈ passes) {item : Item}
    {rule : Rule.FlatModifier} (hdeclares : p.Declares item (.flatModifier rule))
    (hdomain : rule.domain.text ≠ "") :
    ∃ m ∈ (ofPasses passes).modifiers.listAt rule.domain.text, m.StemsFrom item rule := by
  obtain ⟨hitem, source, hsource, e, helement, hrule⟩ := hdeclares
  refine ⟨e.modifier rule item, ?_, e.stemsFrom_modifier rule item⟩
  have hfound := found_ofPasses_iff
    (fun s => e.modifier rule item ∈ s.modifiers.listAt rule.domain.text) List.not_mem_nil
    (fun s t => by rw [modifiers_append, Table.listAt_merge, List.mem_append]) passes
  have hnonempty : rule.domain.isEmpty = false := by simpa [Domain.isEmpty] using hdomain
  refine hfound.2 ⟨p, hp, item, hitem, source, hsource, ?_⟩
  rw [p.registry.effect_flatModifier helement hrule hnonempty]
  show _ ∈ ((∅ : Table (List Modifier)).append rule.domain.text _).listAt rule.domain.text
  simp [Table.listAt_append]

/-- **Prepared synthetics are well-formed**, whatever the registries and the items: no domain, roll
option or type of damage is empty, and no domain is without entries. Each modifier stems from a flat
modifier that some item declares for its domain, and each such rule has a modifier that stems from
it. -/
theorem prepared_wellFormed (passes : List Pass) :
    let s := ofPasses passes
    (s.modifiers.find? "" = none ∧ ∀ key, s.modifiers.find? key ≠ some []) ∧
    (s.diceOverrides.find? "" = none ∧ ∀ key, s.diceOverrides.find? key ≠ some []) ∧
    "" ∉ s.rollOptions ∧
    (∀ r ∈ s.resistances, r.damageType ≠ "") ∧
    (∀ key ms, s.modifiers.find? key = some ms → ∀ m ∈ ms, ∃ p ∈ passes, ∃ item rule,
      p.Declares item (.flatModifier rule) ∧ rule.domain.text = key ∧ m.StemsFrom item rule) ∧
    ∀ p ∈ passes, ∀ item rule, p.Declares item (.flatModifier rule) → rule.domain.text ≠ "" →
      ∃ ms, s.modifiers.find? rule.domain.text = some ms ∧ ∃ m ∈ ms, m.StemsFrom item rule := by
  intro s
  have hsound := sound_ofPasses passes
  refine ⟨hsound.modifiers.keys, hsound.diceOverrides.keys, hsound.rollOptions,
    hsound.resistances, ?_, ?_⟩
  · intro key ms hms m hm
    obtain ⟨-, -, hstems⟩ := hsound.modifiers key ms hms
    obtain ⟨item, rule, ⟨p, hp, hdeclares⟩, hdomain, hstem⟩ := hstems m hm
    exact ⟨p, hp, item, rule, hdeclares, hdomain, hstem⟩
  · intro p hp item rule hdeclares hdomain
    obtain ⟨m, hm, hstems⟩ := exists_stemsFrom hp hdeclares hdomain
    obtain ⟨ms, hms, hm⟩ := Table.mem_listAt.1 hm
    exact ⟨ms, hms, m, hm, hstems⟩

/-! ### A litany

A host has registered a key of its own, whatever stands in the source. The litany is read twice.
-/

def blessing : Rule.FlatModifier where
  domain := ⟨"characteristic:wp"⟩
  value := .rating

def relic : Item where
  name := "Relic"
  attributes := .ofEntries [("rating", .int 3)]
  rules := [.ofFields [("key", .string "Blessing")]]

def litany : Pass :=
  ⟨Registry.builtin.register "Blessing" fun _ => .ok (.flatModifier blessing), [relic]⟩

theorem prepared_wellFormed_litany :
    litany.Declares relic (.flatModifier blessing) ∧
    ∃ ms, (ofPasses [litany, litany]).modifiers.find? "characteristic:wp" = some ms ∧
      ∃ m ∈ ms, m.value = 3 ∧ m.enabled = true := by
  have helement : litany.registry.element? (.ofFields [("key", .string "Blessing")]) relic =
      some ⟨default, "Relic", .flatModifier blessing⟩ := by decide +kernel
  have hdeclares : litany.Declares relic (.flatModifier blessing) :=
    ⟨List.mem_singleton_self _, _, List.mem_singleton_self _, _, helement, rfl⟩
  obtain ⟨-, -, -, -, -, hthere⟩ := prepared_wellFormed [litany, litany]
  obtain ⟨ms, hms, m, hm, hstems⟩ :=
    hthere litany List.mem_cons_self relic blessing hdeclares (by decide)
  have hrating : relic.rating = 3 := by decide +kernel
  exact ⟨hdeclares, ms, hms, m, hm, hstems.value.trans hrating, hstems.enabled⟩

end Synthetics

end Percentile
