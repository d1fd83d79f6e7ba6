import Percentile.Proofs.Derivation
import Percentile.Proofs.RuleValues

/-!
# Rule sources

What a registry makes of the source of a rule: an element, or an error that names the key of the
source. This file says on what that depends, for every built-in kind, under its own key and under
others.

**Fields** (`Rule.fieldsOf`). A kind reads its own fields, and the registry reads the key and the
label. So other fields may come, go and change (`Registry.instantiate_congr`), and it does not
matter to the kind under which key it is registered (`Registry.exists_made`). Both go for errors
too, down to what was found and what was expected in its place (`ReadError`).

**Writing** (`Rule.toSource`). A rule is written with its own fields, and a kind reads again what it
has read before, although not in the same words: a number in a text becomes a number, a default is
written out, and predicates and modes come in their normal form. With the key and the label put back
that gives the same element (`Registry.instantiate_toSource`).

**Theorem (`instantiate_reads_own_fields`).** Sources, further keys and writing, for every kind.
-/

namespace Percentile

open Reader Record

/-! ## Values and choices -/

theorem RuleValue.recovers (v : RuleValue) : RuleValue.read.Recovers RuleValue.toJson v :=
  v.readValue_toJson

theorem recovers_option_ruleValue (v : Option RuleValue) :
    (option RuleValue.read).Recovers (·.elim .null RuleValue.toJson) v := by
  cases v with
  | none => rfl
  | some v =>
    have hv := v.recovers
    cases v with
    | rating => rfl
    | literal n =>
      exact map_eq_ok.2 ⟨_, hv, rfl⟩

instance : Choice.labeledRecord.Lawful := by
  unfold Choice.labeledRecord
  infer_instance

theorem Choice.recovers (c : Choice) : Choice.read.Recovers Choice.toJson c := by
  cases c with
  | plain value => rfl
  | labeled value label =>
    have hread : labeledRecord.read "Choice" (.ofValue (labeled value label).toJson) =
        .ok (labeled value label) := by
      apply read_ofFields
      unfold labeledRecord
      refine build_seq_of_ok (build_map_of_ok ?_) ?_
      · exact build_required_of_recovers (text_ofValue value) (by simp [Entries.find?])
      · exact build_required_of_recovers (text_ofValue label) (by simp [Entries.find?])
    have hlabeled : readLabeled (.ofValue (labeled value label).toJson) =
        .ok (labeled value label) := hread
    unfold Recovers read
    rw [firstOf_of_any (any_ofValue _)]
    simp only [List.findSome?, hlabeled]
    rfl

/-! ## Kinds of rules -/

namespace Rule

instance : FlatModifier.record.Lawful := by
  unfold FlatModifier.record
  infer_instance

instance : RollOption.record.Lawful := by
  unfold RollOption.record
  infer_instance

instance : DiceOverride.record.Lawful := by
  unfold DiceOverride.record
  infer_instance

instance : AdjustDegree.record.Lawful := by
  unfold AdjustDegree.record
  infer_instance

instance : Resistance.record.Lawful := by
  unfold Resistance.record
  infer_instance

instance : AdjustToughness.record.Lawful := by
  unfold AdjustToughness.record
  infer_instance

instance : GrantItem.record.Lawful := by
  unfold GrantItem.record
  infer_instance

instance : ChoiceSet.record.Lawful := by
  unfold ChoiceSet.record
  infer_instance

variable {type : String}

theorem FlatModifier.recovers {r : FlatModifier}
    (h : Predicate.read.Recovers Predicate.toJson r.predicate) :
    (record.read type).Recovers (fun r => toJson (.flatModifier r)) r := by
  obtain ⟨domain, value, source, predicate, exclusionGroup, toggleable⟩ := r
  apply read_ofFields
  unfold record
  iterate 5 refine build_seq_of_ok ?_ ?_
  refine build_map_of_ok ?_
  · exact build_required_of_recovers domain.recovers (by simp [Entries.find?])
  · exact build_required_of_recovers value.recovers (by simp [Entries.find?])
  · exact build_optional_of_recovers (recovers_option_text source) (by simp [Entries.find?])
  · exact build_optional_of_recovers h (by simp [Entries.find?])
  · exact build_optional_of_recovers (recovers_option_text exclusionGroup)
      (by simp [Entries.find?])
  · exact build_optional_of_recovers (bool_ofValue toggleable) (by simp [Entries.find?])

theorem RollOption.recovers (r : RollOption) :
    (record.read type).Recovers (fun r => toJson (.rollOption r)) r := by
  apply read_ofFields
  unfold record
  refine build_map_of_ok ?_
  exact build_required_of_recovers (text_ofValue r.option) (by simp [Entries.find?])

theorem DiceOverride.recovers {r : DiceOverride}
    (h : DiceMode.read.Recovers DiceMode.toJson r.mode) :
    (record.read type).Recovers (fun r => toJson (.diceOverride r)) r := by
  obtain ⟨domain, mode⟩ := r
  apply read_ofFields
  unfold record
  refine build_seq_of_ok (build_map_of_ok ?_) ?_
  · exact build_required_of_recovers domain.recovers (by simp [Entries.find?])
  · exact build_required_of_recovers h (by simp [Entries.find?])

theorem AdjustDegree.recovers {r : AdjustDegree}
    (h : Predicate.read.Recovers Predicate.toJson r.predicate) :
    (record.read type).Recovers (fun r => toJson (.adjustDegree r)) r := by
  obtain ⟨amount, predicate⟩ := r
  apply read_ofFields
  unfold record
  refine build_seq_of_ok (build_map_of_ok ?_) ?_
  · exact build_required_of_recovers (score_ofValue amount) (by simp [Entries.find?])
  · exact build_optional_of_recovers h (by simp [Entries.find?])

theorem Resistance.recovers (r : Resistance) :
    (record.read type).Recovers (fun r => toJson (.resistance r)) r := by
  obtain ⟨damageType, value, mode⟩ := r
  apply read_ofFields
  unfold record
  iterate 2 refine build_seq_of_ok ?_ ?_
  refine build_map_of_ok ?_
  · exact build_required_of_recovers (text_ofValue damageType) (by simp [Entries.find?])
  · exact build_optional_of_recovers (recovers_option_ruleValue value) (by simp [Entries.find?])
  · exact build_optional_of_recovers mode.recovers (by simp [Entries.find?])

theorem AdjustToughness.recovers (r : AdjustToughness) :
    (record.read type).Recovers (fun r => toJson (.adjustToughness r)) r := by
  obtain ⟨value, mode⟩ := r
  apply read_ofFields
  unfold record
  refine build_seq_of_ok (build_map_of_ok ?_) ?_
  · exact build_required_of_recovers value.recovers (by simp [Entries.find?])
  · exact build_optional_of_recovers mode.recovers (by simp [Entries.find?])

theorem GrantItem.recovers (r : GrantItem) :
    (record.read type).Recovers (fun r => toJson (.grantItem r)) r := by
  apply read_ofFields
  unfold record
  refine build_map_of_ok ?_
  exact build_required_of_recovers (text_ofValue r.uuid) (by simp [Entries.find?])

theorem ChoiceSet.recovers (r : ChoiceSet) :
    (record.read type).Recovers (fun r => toJson (.choiceSet r)) r := by
  obtain ⟨prompt, choices, flag⟩ := r
  apply read_ofFields
  unfold record
  iterate 2 refine build_seq_of_ok ?_ ?_
  refine build_map_of_ok ?_
  · exact build_optional_of_recovers (text_ofValue prompt) (by simp [Entries.find?])
  · exact build_optional_of_recovers (.list fun c _ => Choice.recovers c) (by simp [Entries.find?])
  · exact build_required_of_recovers (text_ofValue flag) (by simp [Entries.find?])

/-- The fields that the kinds of rules know, by their keys. -/
def knownFields : Entries (List String) :=
  [("FlatModifier", ["domain", "value", "source", "predicate", "exclusionGroup", "toggleable"]),
   ("RollOption", ["option"]),
   ("DiceOverride", ["domain", "mode"]),
   ("AdjustDegree", ["amount", "predicate"]),
   ("Resistance", ["damageType", "value", "mode"]),
   ("AdjustToughness", ["value", "mode"]),
   ("GrantItem", ["uuid"]),
   ("ChoiceSet", ["prompt", "choices", "flag"])]

/-- The fields that a kind of rules knows. -/
def fieldsOf (kind : String) : List String := (Entries.find? kind knownFields).getD []

end Rule

namespace RuleFactory

variable {kind : String} {factory : RuleFactory}

/-- **A built-in kind** reads a record with the fields of the kind, and the record reads again every
rule that can be recovered. -/
theorem exists_record_of_mem_builtin (hmem : (kind, factory) ∈ builtin) :
    ∃ (α : Type) (fields : Record α) (type : String) (wrap : α → Rule), fields.Lawful ∧
      factory = ofRecord fields type wrap ∧ fields.fields.map (·.name) = Rule.fieldsOf kind ∧
      ∀ a, (wrap a).Recoverable → (fields.read type).Recovers (fun a => (wrap a).toJson) a := by
  simp only [builtin, List.mem_cons, Prod.mk.injEq, List.not_mem_nil, or_false] at hmem
  rcases hmem with ⟨rfl, rfl⟩ | ⟨rfl, rfl⟩ | ⟨rfl, rfl⟩ | ⟨rfl, rfl⟩ | ⟨rfl, rfl⟩ | ⟨rfl, rfl⟩ |
    ⟨rfl, rfl⟩ | ⟨rfl, rfl⟩ <;>
  refine ⟨_, _, _, _, inferInstance, rfl, rfl, ?_⟩
  · exact fun _ => Rule.FlatModifier.recovers
  · exact fun r _ => r.recovers
  · exact fun _ => Rule.DiceOverride.recovers
  · exact fun _ => Rule.AdjustDegree.recovers
  all_goals exact fun r _ => r.recovers

/-- **A kind of rules reads its own fields alone.** -/
theorem congr_of_mem_builtin (hmem : (kind, factory) ∈ builtin) {s t : Table Json}
    (h : ∀ name ∈ Rule.fieldsOf kind, s.find? name = t.find? name) :
    factory (.ofTable s) = factory (.ofTable t) := by
  obtain ⟨α, fields, type, wrap, hlawful, rfl, hnames, -⟩ := exists_record_of_mem_builtin hmem
  rw [← hnames] at h
  exact congrArg (Except.map wrap) (fields.read_ofTable_congr type h)

/-- **A rule that was read is read again from what it is written as.** -/
theorem recovers_of_mem_builtin (hmem : (kind, factory) ∈ builtin) {source : Json} {rule : Rule}
    (h : factory source = .ok rule) : factory rule.toJson = .ok rule := by
  have hrule := recoverable_of_mem_builtin hmem h
  obtain ⟨α, fields, type, wrap, -, rfl, -, hrecovers⟩ := exists_record_of_mem_builtin hmem
  obtain ⟨a, -, rfl⟩ := exists_of_ofRecord h
  exact map_eq_ok.2 ⟨a, hrecovers a hrule, rfl⟩

end RuleFactory

/-! ## Sources -/

namespace Json

/-- An object with a field set to a value. -/
def withField (j : Json) (name : String) (value : Json) : Json :=
  match j with
  | .object fields => .object (Entries.insert name value fields)
  | j => j

theorem ofFields_eq_ofTable (fields : Entries Json) :
    ofFields fields = ofTable (.ofEntries fields) :=
  rfl

theorem withField_ofTable (t : Table Json) (name : String) (value : Json) :
    (ofTable t).withField name value = ofTable (t.insert name value) := rfl

theorem field?_ofTable (t : Table Json) (name : String) : (ofTable t).field? name = t.find? name :=
  rfl

end Json

namespace Rule

/-- The source of a rule under a key, perhaps with a label. -/
def toSource (rule : Rule) (key : String) (label : Option Json) : Json :=
  let source := rule.toJson.withField "key" (.string key)
  label.elim source fun label => source.withField "label" label

/-- Neither key nor label is a field of any kind. -/
theorem ne_of_mem_fieldsOf {kind : String} {factory : RuleFactory}
    (hmem : (kind, factory) ∈ RuleFactory.builtin) {name : String} (h : name ∈ fieldsOf kind) :
    name ≠ "key" ∧ name ≠ "label" := by
  have hkinds : ∀ kind ∈ RuleFactory.builtin.map (·.1), ∀ name ∈ fieldsOf kind,
      name ≠ "key" ∧ name ≠ "label" := by decide
  exact hkinds kind (List.mem_map_of_mem hmem) name h

theorem exists_toJson (rule : Rule) : ∃ t : Table Json, rule.toJson = .ofTable t := by
  cases rule <;> exact ⟨_, Json.ofFields_eq_ofTable _⟩

theorem field?_toJson_label (rule : Rule) : rule.toJson.field? "label" = none := by
  cases rule <;>
  · unfold toJson
    rw [Json.field?_ofFields]
    simp [Entries.find?]

/-- A source has its key, its label and the fields of the rule. -/
theorem exists_toSource (rule : Rule) (key : String) (label : Option Json) :
    ∃ t : Table Json, rule.toSource key label = .ofTable t ∧
      t.find? "key" = some (.string key) ∧ t.find? "label" = label ∧
      ∀ name, name ≠ "key" → name ≠ "label" → t.find? name = rule.toJson.field? name := by
  obtain ⟨s, hs⟩ := rule.exists_toJson
  have hlabel := rule.field?_toJson_label
  rw [hs, Json.field?_ofTable] at hlabel
  unfold toSource
  rw [hs, Json.withField_ofTable]
  cases label with
  | none =>
    refine ⟨s.insert "key" (.string key), rfl, ?_, ?_, ?_⟩
    · rw [Table.find?_insert, if_pos rfl]
    · rw [Table.find?_insert, if_neg (by decide), hlabel]
    · intro name hkey _
      rw [Table.find?_insert, if_neg hkey.symm, Json.field?_ofTable]
  | some label =>
    refine ⟨(s.insert "key" (.string key)).insert "label" label, rfl, ?_, ?_, ?_⟩
    · rw [Table.find?_insert, if_neg (by decide), Table.find?_insert, if_pos rfl]
    · rw [Table.find?_insert, if_pos rfl]
    · intro name hkey hlabel
      rw [Table.find?_insert, if_neg hlabel.symm, Table.find?_insert, if_neg hkey.symm,
        Json.field?_ofTable]

end Rule

namespace Registry

variable {r : Registry} {owner : Item} {kind key : String} {factory : RuleFactory}

/-- What a source gives under a key that is registered. -/
theorem instantiate_of_registered {t : Table Json} (hkey : t.find? "key" = some (.string key))
    (hfactory : r.factories.find? key = some factory) (owner : Item) :
    r.instantiate (.ofTable t) owner =
      ((factory (.ofTable t)).map fun rule =>
        some (Element.declare owner ((t.find? "label").bind Json.string?) rule)).mapError
          (.malformed key) := by
  unfold instantiate
  rw [Json.field?_ofTable, Json.field?_ofTable, hkey, Option.bind_some, Json.string?]
  simp only [hfactory]
  cases factory (.ofTable t) <;> rfl

/-- A built-in kind is registered under its own key. -/
theorem find?_builtin (hbuiltin : (kind, factory) ∈ RuleFactory.builtin) :
    Registry.builtin.factories.find? kind = some factory :=
  Entries.find?_sorted_of_mem (by decide) hbuiltin

/-- A further key is no matter to the sources with another one. -/
theorem instantiate_register_of_ne {source : Json}
    (h : (source.field? "key").bind Json.string? ≠ some key) (factory : RuleFactory)
    (owner : Item) : (r.register key factory).instantiate source owner =
      r.instantiate source owner := by
  unfold instantiate
  cases hkey : (source.field? "key").bind Json.string? with
  | none => rfl
  | some other =>
    have hne : key ≠ other := fun heq => h (heq ▸ hkey)
    have hfind : (r.register key factory).factories.find? other = r.factories.find? other := by
      rw [register, Table.find?_insert, if_neg hne]
    simp only [hfind]

/-- Sources that agree on the key, the label and the fields of the kind give the same. -/
theorem instantiate_congr (hbuiltin : (kind, factory) ∈ RuleFactory.builtin)
    (hfactory : r.factories.find? key = some factory) {s t : Table Json}
    (hkey : s.find? "key" = some (.string key))
    (hagree : ∀ name ∈ "key" :: "label" :: Rule.fieldsOf kind, s.find? name = t.find? name)
    (owner : Item) : r.instantiate (.ofTable s) owner = r.instantiate (.ofTable t) owner := by
  have hkey' := (hagree "key" (by simp)).symm.trans hkey
  have hlabel := hagree "label" (by simp)
  have hmade : factory (.ofTable s) = factory (.ofTable t) := by
    apply RuleFactory.congr_of_mem_builtin hbuiltin
    intro name hname
    exact hagree name (List.mem_cons_of_mem _ (List.mem_cons_of_mem _ hname))
  rw [instantiate_of_registered hkey hfactory, instantiate_of_registered hkey' hfactory, hmade,
    hlabel]

/-- A kind under two keys makes the same of a source, but for the key that an error names. -/
theorem exists_made (hbuiltin : (kind, factory) ∈ RuleFactory.builtin) (t : Table Json)
    (owner : Item) :
    ∃ made : Except ReadError Element, ∀ (r : Registry) (key : String),
      r.factories.find? key = some factory →
      r.instantiate (.ofTable (t.insert "key" (.string key))) owner =
        (made.map some).mapError (.malformed key) := by
  refine ⟨(factory (.ofTable t)).map fun rule =>
    .declare owner ((t.find? "label").bind Json.string?) rule, ?_⟩
  intro r key hfactory
  have hkey : (t.insert "key" (.string key)).find? "key" = some (.string key) := by
    rw [Table.find?_insert, if_pos rfl]
  have hlabel : (t.insert "key" (.string key)).find? "label" = t.find? "label" := by
    rw [Table.find?_insert, if_neg (by decide)]
  have hmade : factory (.ofTable (t.insert "key" (.string key))) = factory (.ofTable t) := by
    apply RuleFactory.congr_of_mem_builtin hbuiltin
    intro name hname
    rw [Table.find?_insert, if_neg (Rule.ne_of_mem_fieldsOf hbuiltin hname).1.symm]
  rw [instantiate_of_registered hkey hfactory, hlabel, hmade]
  cases factory (.ofTable t) <;> rfl

/-- The source of a rule that was instantiated gives the same element. -/
theorem instantiate_toSource (hbuiltin : (kind, factory) ∈ RuleFactory.builtin)
    (hfactory : r.factories.find? key = some factory) {t : Table Json}
    (hkey : t.find? "key" = some (.string key)) {element : Element}
    (h : r.instantiate (.ofTable t) owner = .ok (some element)) :
    r.instantiate (element.rule.toSource key (t.find? "label")) owner = .ok (some element) := by
  rw [instantiate_of_registered hkey hfactory] at h
  cases hrule : factory (.ofTable t) with
  | error cause =>
    rw [hrule] at h
    exact absurd h nofun
  | ok rule =>
    rw [hrule] at h
    obtain rfl : Element.declare owner ((t.find? "label").bind Json.string?) rule = element :=
      Option.some.inj (Except.ok.inj h)
    obtain ⟨s, hs⟩ := rule.exists_toJson
    obtain ⟨t', ht', hkey', hlabel', hfields⟩ := rule.exists_toSource key (t.find? "label")
    have hmade : factory (.ofTable t') = .ok rule := by
      rw [← RuleFactory.recovers_of_mem_builtin hbuiltin hrule, hs]
      apply RuleFactory.congr_of_mem_builtin hbuiltin
      intro name hname
      obtain ⟨hkey, hlabel⟩ := Rule.ne_of_mem_fieldsOf hbuiltin hname
      rw [hfields name hkey hlabel, hs, Json.field?_ofTable]
    show r.instantiate (rule.toSource key (t.find? "label")) owner = _
    rw [ht', instantiate_of_registered hkey' hfactory, hmade, hlabel']
    rfl

/-- **What a registry makes of the source of a rule.** The built-in registry has every built-in kind
under its own key. Now let any registry have a kind under some key. Fields of a source that the kind
does not know have no say, apart from the key and the label. Under a further key the kind makes the
same of a source as under its own, but for the key that an error names, and sources with other keys
are left alone. The element that a source gives is given again by what its rule is written as, with
the key and the label put back. -/
theorem instantiate_reads_own_fields (r : Registry) (owner : Item)
    (hbuiltin : (kind, factory) ∈ RuleFactory.builtin) :
    Registry.builtin.factories.find? kind = some factory ∧
    (∀ (key : String) (s t : Table Json), r.factories.find? key = some factory →
      s.find? "key" = some (.string key) →
      (∀ name ∈ "key" :: "label" :: Rule.fieldsOf kind, s.find? name = t.find? name) →
      r.instantiate (.ofTable s) owner = r.instantiate (.ofTable t) owner) ∧
    (∀ newKey : String, r.factories.find? kind = some factory →
      (∀ t : Table Json, ∃ made : Except ReadError Element,
        r.instantiate (.ofTable (t.insert "key" (.string kind))) owner =
          (made.map some).mapError (.malformed kind) ∧
        (r.register newKey factory).instantiate (.ofTable (t.insert "key" (.string newKey))) owner =
          (made.map some).mapError (.malformed newKey)) ∧
      ∀ source : Json, (source.field? "key").bind Json.string? ≠ some newKey →
        (r.register newKey factory).instantiate source owner = r.instantiate source owner) ∧
    ∀ (key : String) (t : Table Json) (element : Element), r.factories.find? key = some factory →
      t.find? "key" = some (.string key) →
      r.instantiate (.ofTable t) owner = .ok (some element) →
      r.instantiate (element.rule.toSource key (t.find? "label")) owner = .ok (some element) := by
  refine ⟨find?_builtin hbuiltin, ?_, ?_, ?_⟩
  · exact fun key s t hfactory hkey hagree => instantiate_congr hbuiltin hfactory hkey hagree owner
  · intro newKey hfactory
    refine ⟨?_, fun source h => instantiate_register_of_ne h factory owner⟩
    intro t
    obtain ⟨made, hmade⟩ := exists_made hbuiltin t owner
    have hnew : (r.register newKey factory).factories.find? newKey = some factory := by
      rw [register, Table.find?_insert, if_pos rfl]
    exact ⟨made, hmade r kind hfactory, hmade _ newKey hnew⟩
  · exact fun key t element hfactory hkey h => instantiate_toSource hbuiltin hfactory hkey h

end Registry

/-! ### An heirloom

An old blade balances well. Its rule has the number in a text, a note that no kind knows, and a key
from before the kind had its name. In a bad copy of the rule a number stands for the domain.
-/

def heirloom : Item where
  name := "Heirloom"

def flatBonus : RuleFactory := .ofRecord Rule.FlatModifier.record "FlatModifierRule" .flatModifier

/-- The fields of the blade, with a domain. -/
def bladeFields (domain : Json) : Table Json := .ofEntries
  [("domain", domain), ("value", .string " +15 "), ("predicate", .string "not:prone"),
    ("label", .string "Balance")]

/-- The fields of the blade with a key. -/
def bladeSource (key : String) (domain : Json) : Table Json :=
  (bladeFields domain).insert "key" (.string key)

def balance : Element where
  owner := heirloom.id
  label := "Balance"
  rule := .flatModifier
    { domain := ⟨"characteristic:ws"⟩, value := .literal 15, predicate := ⟨[.negated "prone"]⟩ }

theorem instantiate_reads_own_fields_heirloom :
    let ws := Json.string "characteristic:ws"
    let cause := ReadError.wrongShape (.number (.whole 7)) "a string"
    Registry.builtin.instantiate
      (.ofTable ((bladeSource "FlatModifier" ws).insert "notes" (.string "chipped"))) heirloom =
        .ok (some balance) ∧
    (Registry.builtin.register "FlatBonus" flatBonus).instantiate
      (.ofTable (bladeSource "FlatBonus" ws)) heirloom = .ok (some balance) ∧
    (Registry.builtin.register "FlatBonus" flatBonus).instantiate
      (.ofTable (bladeSource "FlatBonus" (.int 7))) heirloom =
        .error (.malformed "FlatBonus" cause) ∧
    Registry.builtin.instantiate (balance.rule.toSource "FlatModifier" (some (.string "Balance")))
      heirloom = .ok (some balance) := by
  intro ws cause
  have hbuiltin : ("FlatModifier", flatBonus) ∈ RuleFactory.builtin := List.mem_cons_self
  have hplain : Registry.builtin.instantiate (.ofTable (bladeSource "FlatModifier" ws))
      heirloom = .ok (some balance) := by decide +kernel
  have hmalformed : Registry.builtin.instantiate (.ofTable (bladeSource "FlatModifier" (.int 7)))
      heirloom = .error (.malformed "FlatModifier" cause) := by decide +kernel
  obtain ⟨hregistered, hown, hkeys, hwritten⟩ :=
    Registry.instantiate_reads_own_fields .builtin heirloom hbuiltin
  obtain ⟨hmade, -⟩ := hkeys "FlatBonus" hregistered
  refine ⟨?_, ?_, ?_, ?_⟩
  · exact (hown "FlatModifier" _ _ hregistered (by decide +kernel) (by decide +kernel)).trans hplain
  · obtain ⟨made, hold, hnew⟩ := hmade (bladeFields ws)
    rw [← bladeSource, hplain] at hold
    rw [bladeSource, hnew]
    cases made with
    | error cause => exact absurd hold nofun
    | ok element => exact hold.symm
  · obtain ⟨made, hold, hnew⟩ := hmade (bladeFields (.int 7))
    rw [← bladeSource, hmalformed] at hold
    rw [bladeSource, hnew]
    cases made with
    | error cause =>
      obtain rfl := (RuleError.malformed.inj (Except.error.inj hold)).2
      rfl
    | ok element => exact absurd hold nofun
  · have hlabel : (bladeSource "FlatModifier" ws).find? "label" = some (.string "Balance") := by
      decide +kernel
    rw [← hlabel]
    exact hwritten "FlatModifier" _ balance hregistered (by decide +kernel) hplain

end Percentile
