import Percentile.Check.Engine
import Percentile.Proofs.Entries
import Percentile.Proofs.History
import Percentile.Proofs.Lineage

/-!
# How far a rule reaches

One more rule source is put somewhere into the rules of an actor, and the actor is prepared again.
This file says which checks notice, and how.

**In the synthetics** (`Actor.synthetics_withRuleAt`). The effect of the new source stands between
the effects of the sources before and behind it, and nothing else changes.

**In a domain** (`Table.joins_along`). What applies in a domain is what stands under the domain
itself and then what stands under its parent. An entry for one of these two joins there, once, and
an entry for any other domain does not.

**In a check** (`Engine.prepare_with`). Actors whose synthetics have the same roll options and the
same degree adjustments have the same pending checks, but for the modifiers.

**Theorem (`reach_of_rule`).** A flat modifier joins the checks in the domains that its own domain
feeds, in a place that depends on the feeding, and no others. Dice overrides, resistances, changes
to toughness and granted items reach no check at all, and dice overrides reach the same domains as
modifiers do.
-/

namespace Percentile

/-! ## One more entry in a domain -/

/-- What applies in domain `c` after `x` has joined for domain `d`, where `own` and `inherited` are
what applied before, registered for `c` itself and for its parent. -/
def Joins {α : Type} (x : α) (d c : Domain) (own inherited after : List α) : Prop :=
  (d = c → ∃ front back, own = front ++ back ∧ after = front ++ x :: back ++ inherited) ∧
  (c.Continues d →
    ∃ front back, inherited = front ++ back ∧ after = own ++ (front ++ x :: back)) ∧
  (¬ d.Feeds c → after = own ++ inherited)

namespace Table

variable {α : Type}

theorem along_lineage (t : Table (List α)) (c : Domain) :
    t.along c.lineage = t.listAt c.text ++ t.along c.parent?.toList := rfl

theorem along_toList (t : Table (List α)) (parent : Option Domain) :
    t.along parent.toList = (parent.map fun p => t.listAt p.text).getD [] := by
  cases parent with
  | none => rfl
  | some p => exact List.append_nil _

theorem listAt_append (d : Domain) (x : α) (key : String) :
    ((∅ : Table (List α)).append d.text x).listAt key = if d.text = key then [x] else [] := by
  unfold listAt append
  rw [find?_put]
  by_cases hkey : d.text = key
  · rw [if_pos hkey, if_pos hkey]
    rfl
  · rw [if_neg hkey, if_neg hkey]
    rfl

/-- **An entry joins where its domain feeds**, once, and nowhere else. -/
theorem joins_along (before behind : Table (List α)) (x : α) (d c : Domain) :
    Joins x d c ((before.merge (· ++ ·) behind).listAt c.text)
      ((before.merge (· ++ ·) behind).along c.parent?.toList)
      ((before.merge (· ++ ·) ((append ∅ d.text x).merge (· ++ ·) behind)).along c.lineage) := by
  have hadd : ∀ key,
      (before.merge (· ++ ·) ((append ∅ d.text x).merge (· ++ ·) behind)).listAt key =
      before.listAt key ++ ((if d.text = key then [x] else []) ++ behind.listAt key) := by
    intro key
    rw [listAt_merge, listAt_merge, listAt_append]
  have hskip : ∀ key, d.text ≠ key →
      (before.merge (· ++ ·) ((append ∅ d.text x).merge (· ++ ·) behind)).listAt key =
        (before.merge (· ++ ·) behind).listAt key := by
    intro key hkey
    rw [hadd, if_neg hkey, listAt_merge, List.nil_append]
  have htext : ∀ d' : Domain, d.text = d'.text → d = d' := by
    intro d' h
    cases d
    cases d'
    exact congrArg Domain.mk h
  rw [along_lineage, along_toList, along_toList]
  refine ⟨?_, ?_, ?_⟩
  · rintro rfl
    refine ⟨before.listAt d.text, behind.listAt d.text, listAt_merge _ _ _, ?_⟩
    have hown := hadd d.text
    rw [if_pos rfl] at hown
    rw [hown]
    -- The parent of a domain is another one, so what stands under it is as before.
    cases hparent : d.parent? with
    | none => rfl
    | some p =>
      have hne : d.text ≠ p.text := by
        intro h
        have hself : d.parent? = some d := hparent.trans (congrArg some (htext p h).symm)
        exact d.not_continues_self (Domain.parent?_eq_some_iff.1 hself)
      simp [hskip p.text hne]
  · intro hcontinues
    have hne : d.text ≠ c.text := by
      intro h
      rw [htext c h] at hcontinues
      exact c.not_continues_self hcontinues
    rw [Domain.parent?_eq_some_iff.2 hcontinues]
    refine ⟨before.listAt d.text, behind.listAt d.text, listAt_merge _ _ _, ?_⟩
    have hparent := hadd d.text
    rw [if_pos rfl] at hparent
    rw [hskip c.text hne]
    simp [hparent]
  · intro hfeeds
    have hne : d.text ≠ c.text := fun h => hfeeds (.inl (htext c h))
    rw [hskip c.text hne]
    cases hparent : c.parent? with
    | none => rfl
    | some p =>
      have hnotparent : d.text ≠ p.text := by
        intro h
        rw [← htext p h] at hparent
        exact hfeeds (.inr (Domain.parent?_eq_some_iff.1 hparent))
      simp [hskip p.text hnotparent]

end Table

/-! ## One more rule source -/

/-- The actor with one more rule source, in the rules of the item at an index. -/
def Actor.withRuleAt (a : Actor) (index position : Nat) (source : Json) : Actor :=
  a.modifyItem index fun item => { item with rules := item.rules.insertIdx position source }

variable {a : Actor} {index position : Nat} {item : Item}

theorem Registry.outcomes_withRuleAt (r : Registry) (hitem : a.items[index]? = some item)
    (hposition : position ≤ item.rules.length) (source : Json) :
    ∃ before behind, r.outcomes a.items = before ++ behind ∧
      r.outcomes (a.withRuleAt index position source).items =
        before ++ r.outcome item source :: behind := by
  obtain ⟨hindex, rfl⟩ := List.getElem?_eq_some_iff.1 hitem
  obtain ⟨front, item, back, hitems, hlength, hmodify⟩ := List.exists_of_modify
    (fun item : Item => { item with rules := item.rules.insertIdx position source }) hindex
  have hget : a.items[index] = item := by simp [hitems, ← hlength]
  rw [hget] at hposition ⊢
  obtain ⟨above, below, hrules, -, hinsert⟩ :=
    List.exists_of_modifyTailIdx (List.cons source) hposition
  refine ⟨r.outcomes front ++ above.map (r.outcome item),
    below.map (r.outcome item) ++ r.outcomes back, ?_, ?_⟩
  · rw [hitems]
    simp [outcomes, hrules]
  · have hsame : r.outcome { item with rules := item.rules.insertIdx position source } =
        r.outcome item := funext fun source' => r.outcome_withRules item _ source'
    show r.outcomes (a.items.modify index _) = _
    rw [hmodify]
    show (front ++ _ :: back).flatMap _ = _
    rw [List.flatMap_append, List.flatMap_cons, hsame]
    show r.outcomes front ++ ((item.rules.modifyTailIdx position (List.cons source)).map _ ++
      r.outcomes back) = _
    rw [hinsert]
    simp

/-- **The effect of a new source** stands between those of the sources around it. -/
theorem Actor.synthetics_withRuleAt (r : Registry) (hitem : a.items[index]? = some item)
    (hposition : position ≤ item.rules.length) (source : Json) :
    ∃ before behind, (a.prepareData r).1.synthetics = before ++ behind ∧
      ((a.withRuleAt index position source).prepareData r).1.synthetics =
        before ++ (r.effect item source ++ behind) := by
  obtain ⟨before, behind, hold, hnew⟩ := r.outcomes_withRuleAt hitem hposition source
  refine ⟨Synthetics.total (before.map (·.2)), Synthetics.total (behind.map (·.2)), ?_, ?_⟩
  · show (r.prepare a.items ∅).1 = _
    rw [r.prepare_fst, hold, List.map_append, Synthetics.total_append, Synthetics.empty_append]
  · show (r.prepare (a.withRuleAt index position source).items ∅).1 = _
    rw [r.prepare_fst, hnew, List.map_append, List.map_cons, Synthetics.total_append,
      Synthetics.total_cons, Synthetics.empty_append]
    rfl

/-! ## What checks see -/

/-- Actors that differ in the modifiers of their synthetics have pending checks that differ in the
modifiers. -/
theorem Engine.prepare_with (e : Engine) (c : Context) {a a' : Actor} (hid : a'.id = a.id)
    (hoptions : a'.synthetics.rollOptions = a.synthetics.rollOptions)
    (hdegrees : a'.synthetics.degreeAdjustments = a.synthetics.degreeAdjustments) :
    e.prepare { c with actor := a' } =
      { e.prepare { c with actor := a } with
        modifiers := a'.synthetics.modifiersFor c.domain ++ c.modifiers } := by
  show PendingCheck.mk a'.id _ _ _ _ (a'.synthetics.rollOptions ∪ _ ∪ _)
      a'.synthetics.degreeAdjustments _ =
    PendingCheck.mk a.id _ _ _ _ (a.synthetics.rollOptions ∪ _ ∪ _)
      a.synthetics.degreeAdjustments _
  rw [hid, hoptions, hdegrees]
  rfl

namespace Registry

variable (r : Registry) {source : Json} {element : Element}

theorem effect_of_element (h : r.element? source item = some element) :
    r.effect item source = (element.prepare item ∅).1 := by
  unfold effect
  rw [h]

theorem effect_flatModifier {rule : Rule.FlatModifier} (h : r.element? source item = some element)
    (hrule : element.rule = .flatModifier rule) (hdomain : rule.domain.isEmpty = false) :
    r.effect item source =
      (∅ : Synthetics).addModifier rule.domain (element.modifier rule item) := by
  rw [r.effect_of_element h, Element.prepare, hrule]
  simp [hdomain]

theorem effect_diceOverride {rule : Rule.DiceOverride} (h : r.element? source item = some element)
    (hrule : element.rule = .diceOverride rule) (hdomain : rule.domain.isEmpty = false) :
    r.effect item source =
      (∅ : Synthetics).addDiceOverride rule.domain ⟨rule.mode, element.label⟩ := by
  rw [r.effect_of_element h, Element.prepare, hrule]
  simp [hdomain]

/-- The keys of the kinds of rule that no check sees. -/
def keysAside : List String := ["DiceOverride", "Resistance", "AdjustToughness", "GrantItem"]

theorem effect_aside (h : ∀ element, r.element? source item = some element →
    element.rule.key ∈ keysAside) :
    (r.effect item source).rollOptions = ∅ ∧ (r.effect item source).modifiers = ∅ ∧
      (r.effect item source).degreeAdjustments = [] := by
  cases helement : r.element? source item with
  | none =>
    unfold effect
    rw [helement]
    exact ⟨rfl, rfl, rfl⟩
  | some element =>
    have hkey := h element helement
    rw [r.effect_of_element helement, Element.prepare]
    cases hrule : element.rule with
    | flatModifier rule | rollOption rule | adjustDegree rule | choiceSet rule =>
      rw [hrule] at hkey
      simp [keysAside, Rule.key] at hkey
    | diceOverride rule | resistance rule =>
      simp only
      split <;> exact ⟨rfl, rfl, rfl⟩
    | adjustToughness rule | grantItem rule => exact ⟨rfl, rfl, rfl⟩

end Registry

/-! ## The kinds of the registry -/

/-- The factory of a kind gives what it reads of that kind. -/
theorem RuleFactory.exists_of_ofRecord {α : Type} {fields : Record α} {type : String}
    {wrap : α → Rule} {source : Json} {rule : Rule}
    (h : ofRecord fields type wrap source = .ok rule) :
    ∃ x, (fields.read type).readValue source = .ok x ∧ rule = wrap x := by
  unfold ofRecord at h
  cases hread : (fields.read type).readValue source with
  | error cause =>
    rw [hread] at h
    exact absurd h nofun
  | ok x =>
    rw [hread] at h
    exact ⟨x, rfl, (Except.ok.inj h).symm⟩

/-- **The built-in registry knows each kind under its own key.** -/
theorem RuleFactory.key_of_mem_builtin {key : String} {factory : RuleFactory} {source : Json}
    {rule : Rule} (hmem : (key, factory) ∈ RuleFactory.builtin)
    (h : factory source = .ok rule) : rule.key = key := by
  simp only [RuleFactory.builtin, List.mem_cons, Prod.mk.injEq, List.not_mem_nil, or_false] at hmem
  rcases hmem with ⟨rfl, rfl⟩ | ⟨rfl, rfl⟩ | ⟨rfl, rfl⟩ | ⟨rfl, rfl⟩ | ⟨rfl, rfl⟩ | ⟨rfl, rfl⟩ |
    ⟨rfl, rfl⟩ | ⟨rfl, rfl⟩ <;>
  · obtain ⟨x, -, rfl⟩ := exists_of_ofRecord h
    rfl

/-- An element of the built-in registry has the rule that one of the eight factories gives. -/
theorem Registry.exists_factory_of_builtin {source : Json} {element : Element}
    (h : Registry.builtin.element? source item = some element) :
    ∃ key factory, (source.field? "key").bind Json.string? = some key ∧
      (key, factory) ∈ RuleFactory.builtin ∧ factory source = .ok element.rule := by
  unfold element? instantiate at h
  cases hkey : (source.field? "key").bind Json.string? with
  | none =>
    rw [hkey] at h
    exact absurd h nofun
  | some key =>
    rw [hkey] at h
    cases hfactory : Registry.builtin.factories.find? key with
    | none =>
      simp only [hfactory] at h
      exact absurd h nofun
    | some factory =>
      simp only [hfactory] at h
      have hmem : (key, factory) ∈ RuleFactory.builtin :=
        Entries.mem_of_mem_sorted (Entries.mem_of_find? hfactory)
      cases hrule : factory source with
      | error cause =>
        simp only [hrule] at h
        exact absurd h nofun
      | ok rule =>
        simp only [hrule, Option.some.injEq] at h
        exact ⟨key, factory, rfl, hmem, by rw [hrule, ← h]; rfl⟩

theorem Registry.key_of_builtin {source : Json} {element : Element}
    (h : Registry.builtin.element? source item = some element) :
    (source.field? "key").bind Json.string? = some element.rule.key := by
  obtain ⟨key, factory, hkey, hmem, hrule⟩ := exists_factory_of_builtin h
  rw [hkey, RuleFactory.key_of_mem_builtin hmem hrule]

/-! ## Checks -/

/-- **How far a rule reaches.** Put one more rule source into the rules of an item, and prepare the
actor with the built-in registry. A flat modifier joins the modifiers of the synthetics where its
domain feeds the domain of the check, and the pending check is the same but for that. A rule of one
of the kinds aside changes no pending check, and dice overrides follow the law of the modifiers. -/
theorem reach_of_rule (hitem : a.items[index]? = some item)
    (hposition : position ≤ item.rules.length) (source : Json) (e : Engine) (c : Context) :
    let s := (a.prepareData .builtin).1.synthetics
    let s' := ((a.withRuleAt index position source).prepareData .builtin).1.synthetics
    let p := e.prepare { c with actor := (a.prepareData .builtin).1 }
    let p' := e.prepare
      { c with actor := ((a.withRuleAt index position source).prepareData .builtin).1 }
    (∀ element rule, Registry.builtin.element? source item = some element →
      element.rule = .flatModifier rule → rule.domain.isEmpty = false →
      p.modifiers = s.modifiers.listAt c.domain.text ++ s.modifiers.along c.domain.parent?.toList ++
        c.modifiers ∧
      (∃ joined, Joins (element.modifier rule item) rule.domain c.domain
          (s.modifiers.listAt c.domain.text) (s.modifiers.along c.domain.parent?.toList) joined ∧
        p' = { p with modifiers := joined ++ c.modifiers }) ∧
      (¬ rule.domain.Feeds c.domain → p' = p)) ∧
    (∀ key ∈ Registry.keysAside, (source.field? "key").bind Json.string? = some key → p' = p) ∧
    (∀ element rule, Registry.builtin.element? source item = some element →
      element.rule = .diceOverride rule → rule.domain.isEmpty = false →
      s.diceOverridesFor c.domain =
        s.diceOverrides.listAt c.domain.text ++ s.diceOverrides.along c.domain.parent?.toList ∧
      Joins ⟨rule.mode, element.label⟩ rule.domain c.domain
        (s.diceOverrides.listAt c.domain.text) (s.diceOverrides.along c.domain.parent?.toList)
        (s'.diceOverridesFor c.domain)) := by
  intro s s' p p'
  obtain ⟨before, behind, hold, hnew⟩ :=
    Actor.synthetics_withRuleAt Registry.builtin hitem hposition source
  have hs : s = before ++ behind := hold
  have hs' : s' = before ++ (Registry.builtin.effect item source ++ behind) := hnew
  -- An effect without roll options and degree adjustments leaves all but the modifiers alone.
  have hpending : (Registry.builtin.effect item source).rollOptions = ∅ →
      (Registry.builtin.effect item source).degreeAdjustments = [] →
      p' = { p with modifiers := s'.modifiersFor c.domain ++ c.modifiers } := by
    intro hoptions hdegrees
    apply e.prepare_with c
    · rfl
    · show s'.rollOptions = s.rollOptions
      rw [hs, hs', Synthetics.rollOptions_append, Synthetics.rollOptions_append, hoptions,
        RollOptions.empty_union]
      rfl
    · show s'.degreeAdjustments = s.degreeAdjustments
      rw [hs, hs', Synthetics.degreeAdjustments_append, Synthetics.degreeAdjustments_append,
        hdegrees]
      rfl
  refine ⟨?_, ?_, ?_⟩
  · intro element rule helement hrule hdomain
    have heffect := Registry.builtin.effect_flatModifier helement hrule hdomain
    have hp' := hpending (by rw [heffect]; rfl) (by rw [heffect]; rfl)
    have hjoins : Joins (element.modifier rule item) rule.domain c.domain
        (s.modifiers.listAt c.domain.text) (s.modifiers.along c.domain.parent?.toList)
        (s'.modifiersFor c.domain) := by
      rw [hs, hs', heffect]
      exact Table.joins_along before.modifiers behind.modifiers _ _ _
    refine ⟨rfl, ⟨_, hjoins, hp'⟩, ?_⟩
    intro hfeeds
    rw [hp', hjoins.2.2 hfeeds]
    rfl
  · intro key hmem hkey
    have haside : ∀ element, Registry.builtin.element? source item = some element →
        element.rule.key ∈ Registry.keysAside := by
      intro element helement
      have hnamed := Registry.key_of_builtin helement
      rw [hkey, Option.some.injEq] at hnamed
      exact hnamed ▸ hmem
    obtain ⟨hoptions, hmodifiers, hdegrees⟩ := Registry.builtin.effect_aside haside
    rw [hpending hoptions hdegrees]
    have hsame : s'.modifiersFor c.domain = s.modifiersFor c.domain := by
      rw [hs, hs']
      unfold Synthetics.modifiersFor
      rw [Synthetics.modifiers_append, Synthetics.modifiers_append, hmodifiers, Table.empty_merge]
      rfl
    rw [hsame]
    rfl
  · intro element rule helement hrule hdomain
    have heffect := Registry.builtin.effect_diceOverride helement hrule hdomain
    refine ⟨rfl, ?_⟩
    rw [hs, hs', heffect]
    exact Table.joins_along before.diceOverrides behind.diceOverrides _ _ _

/-! ### Loud boots

A cloak helps with stealth as a whole and with sneaking. Boots that are loud for stealth as a whole
are put between the two rules. They join the modifiers that sneaking inherits, and sneaking in
a city, which inherits from sneaking alone, does not notice them.
-/

def stealthRule (domain label : String) (value : Int) : Json := .ofFields
  [("key", .string "FlatModifier"), ("domain", .string domain), ("value", .int value),
   ("label", .string label)]

def cloak : Item where
  name := "Cloak"
  rules := [stealthRule "skill:stealth" "Hood" 10, stealthRule "skill:stealth:sneak" "Hem" 20]

def ranger : Actor where
  name := "Ranger"
  items := [cloak]

def bootsRule : Json := stealthRule "skill:stealth" "Boots" (-10)

def boots : Rule.FlatModifier where
  domain := ⟨"skill:stealth"⟩
  value := .literal (.clamp (-10))

def loudRanger : Actor := ranger.withRuleAt 0 1 bootsRule

def dusk : Modifier := { label := "Dusk", value := 5 }

def inDomain (domain : String) : Context where
  actor := ranger
  baseTarget := 40
  label := "Sneak"
  domain := ⟨domain⟩
  modifiers := [dusk]

/-- The check of an actor in a domain, before it is rolled. -/
def pendingIn (domain : String) (a : Actor) : PendingCheck :=
  Engine.prepare {} { inDomain domain with actor := (a.prepareData .builtin).1 }

theorem reach_of_rule_boots :
    (pendingIn "skill:stealth:sneak" loudRanger).modifiers.map (·.label) =
      ["Hem", "Hood", "Boots", "Dusk"] ∧
    (∃ front back, (ranger.prepareData .builtin).1.synthetics.modifiers.listAt "skill:stealth" =
        front ++ back ∧
      (pendingIn "skill:stealth:sneak" loudRanger).modifiers =
        (ranger.prepareData .builtin).1.synthetics.modifiers.listAt "skill:stealth:sneak" ++
          (front ++ { label := "Boots", value := .clamp (-10), source := "Cloak" } :: back) ++
          [dusk]) ∧
    pendingIn "skill:stealth:sneak:city" loudRanger =
      pendingIn "skill:stealth:sneak:city" ranger := by
  have hitem : ranger.items[0]? = some cloak := rfl
  have hposition : 1 ≤ cloak.rules.length := by decide
  have helement : Registry.builtin.element? bootsRule cloak =
      some ⟨default, "Boots", .flatModifier boots⟩ := by decide +kernel
  obtain ⟨hsneak, _⟩ := reach_of_rule hitem hposition bootsRule {} (inDomain "skill:stealth:sneak")
  obtain ⟨hcity, _⟩ :=
    reach_of_rule hitem hposition bootsRule {} (inDomain "skill:stealth:sneak:city")
  obtain ⟨_, ⟨joined, hjoins, hloud⟩, _⟩ := hsneak _ boots helement rfl rfl
  obtain ⟨_, _, hunchanged⟩ := hcity _ boots helement rfl rfl
  refine ⟨by decide +kernel, ?_, hunchanged ?_⟩
  · have hparent : (Domain.mk "skill:stealth:sneak").parent? = some ⟨"skill:stealth"⟩ := by
      decide +kernel
    obtain ⟨front, back, hinherited, hjoined⟩ :=
      hjoins.2.1 (Domain.parent?_eq_some_iff.1 hparent)
    refine ⟨front, back, ?_, ?_⟩
    · rw [← hinherited]
      decide +kernel
    · rw [hjoined] at hloud
      exact congrArg PendingCheck.modifiers hloud
  · intro hfeeds
    exact absurd (Domain.mem_lineage_iff.2 hfeeds) (by decide +kernel)

end Percentile
