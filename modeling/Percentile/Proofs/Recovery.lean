import Percentile.Check.Result
import Percentile.Modifier.Resolution
import Percentile.Proofs.Saving
import Percentile.Proofs.Spelling

/-!
# Recovering what was written

Modifiers, resolutions, synthetics and results are written as JSON, and hosts read them again. This
file says when they get back what they wrote.

**Normal forms.** Reading brings content to a normal form: a single statement becomes a list of one,
and a second spelling of a mode the first. What is in normal form is written in a way that is read
as itself (`Predicate.ofJson_toJson_ofJson`, `DiceMode.ofText_toText_ofText`). A host could build a
predicate that is not: a statement that demands a tag starting with `not:` comes back as one that
denies the rest of it.

**Recovery** (`Reader.Recovers`) of a structure needs that of its predicates and modes alone, so
there is one lemma for each structure that says so. It serves structures that were put together from
what was read elsewhere, and it makes the readers faithful to what they read themselves, because
then they have read the predicates and modes too (`Modifier.read_faithful`,
`Resolution.read_faithful`, `Synthetics.read_faithful`, `CheckResult.read_faithful`).
-/

namespace Percentile

open Reader Record

/-- A value is read as itself once it is written. -/
def Reader.Recovers {α : Type} (r : Reader α) (write : α → Json) (a : α) : Prop :=
  r (.ofValue (write a)) = .ok a

/-! ## Records -/

namespace Record

variable {α β : Type} {name : String} {find : String → Option Draft} {r : Reader α}
  {write : α → Json} {a : α}

theorem build_map_of_ok {r : Record α} {f : α → β} (h : r.build find = .ok a) :
    (f <$> r).build find = .ok (f a) :=
  build_map.2 ⟨a, h, rfl⟩

theorem build_seq_of_ok {f : Record (α → β)} {r : Record α} {g : α → β}
    (hf : f.build find = .ok g) (hr : r.build find = .ok a) :
    (f <*> r).build find = .ok (g a) :=
  build_seq.2 ⟨g, hf, a, hr, rfl⟩

theorem build_required_of_recovers (hr : r.Recovers write a)
    (hfind : find name = some (.ofValue (write a))) : (required name r).build find = .ok a :=
  build_required.2 ⟨_, hfind, hr⟩

theorem build_optional_of_recovers {default : α} (hr : r.Recovers write a)
    (hfind : find name = some (.ofValue (write a))) :
    (optional name r default).build find = .ok a :=
  build_optional.2 (.inl ⟨_, hfind, hr⟩)

/-- A field that was read is recovered by a faithful reader. -/
theorem recovers_of_build_required (hr : r.Faithful write)
    (h : (required name r).build find = .ok a) : r.Recovers write a := by
  obtain ⟨d, -, hd⟩ := build_required.1 h
  exact hr d a hd

theorem recovers_of_build_optional {default : α} (hr : r.Faithful write)
    (hdefault : r.Recovers write default) (h : (optional name r default).build find = .ok a) :
    r.Recovers write a := by
  rcases build_optional.1 h with ⟨d, -, hd⟩ | ⟨-, rfl⟩
  · exact hr d a hd
  · exact hdefault

end Record

/-! ## Predicates and modes -/

theorem Statement.ofJson_toJson_ofJson (j : Json) : ofJson (ofJson j).toJson = ofJson j := by
  rw [toJson_ofJson]

theorem Predicate.ofJson_toJson_ofJson (j : Json) : ofJson (ofJson j).toJson = ofJson j := by
  cases j with
  | null => rfl
  | array items => simp [ofJson, toJson, Statement.ofJson_toJson_ofJson]
  | bool _ | number _ | string _ | object _ =>
    simp [ofJson, toJson, Statement.ofJson_toJson_ofJson]

theorem Predicate.read_faithful : Predicate.read.Faithful Predicate.toJson := by
  intro d p h
  obtain ⟨j, -, rfl⟩ := map_eq_ok.1 h
  exact map_eq_ok.2 ⟨_, any_ofValue _, ofJson_toJson_ofJson j⟩

-- A predicate that was built and not read may come back as another one.
example : ¬ Predicate.read.Recovers Predicate.toJson (.atom "not:lantern") := by
  unfold Recovers
  decide +kernel

theorem Predicate.recovers_always : Predicate.read.Recovers Predicate.toJson .always := rfl

/-- The second spelling of a mode is not written. -/
theorem DiceMode.ofText_toText_ofText (text : String) :
    ofText (ofText text).toText = ofText text := by
  unfold ofText
  by_cases hreroll : text = "reroll-lowest" ∨ text = "rerollLowest"
  · simp [hreroll, toText]
  · by_cases hmaximize : text = "maximize"
    · simp [hmaximize, toText]
    · by_cases hminimize : text = "minimize"
      · simp [hminimize, toText]
      · simp [hreroll, hmaximize, hminimize, toText]

theorem DiceMode.read_faithful : DiceMode.read.Faithful DiceMode.toJson := by
  intro d m h
  obtain ⟨text, -, rfl⟩ := map_eq_ok.1 h
  exact map_eq_ok.2 ⟨_, text_ofValue _, ofText_toText_ofText text⟩

theorem ResistanceMode.recovers (m : ResistanceMode) : read.Recovers toJson m := by
  cases m <;> rfl

theorem ToughnessMode.recovers (m : ToughnessMode) : read.Recovers toJson m := by
  cases m <;> rfl

/-! ## Collections -/

namespace Reader

variable {α : Type} {r : Reader α} {write : α → Json}

theorem Recovers.list {as : List α} (h : ∀ a ∈ as, r.Recovers write a) :
    (list r).Recovers (fun as => .array (as.map write)) as :=
  list_written h

theorem recovers_option_text (s : Option String) :
    (option text).Recovers (·.elim .null .string) s := by
  cases s <;> rfl

end Reader

theorem RollOptions.recovers (options : RollOptions) : read.Recovers toJson options := by
  have htags : (list text).Recovers (fun tags => .array (tags.map .string)) options.sorted :=
    .list fun tag _ => text_ofValue tag
  refine map_eq_ok.2 ⟨_, htags, ext_mem fun tag => ?_⟩
  rw [mem_ofList, mem_sorted]

theorem Domain.recovers (d : Domain) : Domain.read.Recovers Domain.toJson d := rfl

/-! ## Modifiers and what is made of them -/

instance : Modifier.record.Lawful := by
  unfold Modifier.record
  infer_instance

theorem Modifier.recovers {m : Modifier}
    (h : Predicate.read.Recovers Predicate.toJson m.predicate) :
    Modifier.read.Recovers Modifier.toJson m := by
  obtain ⟨label, value, source, exclusionGroup, predicate, enabled, toggleable⟩ := m
  apply read_ofFields
  unfold record
  iterate 6 refine build_seq_of_ok ?_ ?_
  refine build_map_of_ok ?_
  · exact build_required_of_recovers (text_ofValue label) (by simp [Entries.find?])
  · exact build_required_of_recovers (score_ofValue value) (by simp [Entries.find?])
  · exact build_optional_of_recovers (text_ofValue source) (by simp [Entries.find?])
  · exact build_optional_of_recovers (recovers_option_text exclusionGroup)
      (by simp [Entries.find?])
  · exact build_optional_of_recovers h (by simp [Entries.find?])
  · exact build_optional_of_recovers (bool_ofValue enabled) (by simp [Entries.find?])
  · exact build_optional_of_recovers (bool_ofValue toggleable) (by simp [Entries.find?])

theorem Modifier.recovers_predicate_of_read {d : Draft} {m : Modifier}
    (h : Modifier.read d = .ok m) : Predicate.read.Recovers Predicate.toJson m.predicate := by
  obtain ⟨find, h⟩ := exists_build_of_read h
  simp only [record, build_seq, build_map] at h
  obtain ⟨_, ⟨_, ⟨_, ⟨_, ⟨_, ⟨_, ⟨_, _, rfl⟩, _, _, rfl⟩, _, _, rfl⟩, _, _, rfl⟩,
    predicate, hpredicate, rfl⟩, _, _, rfl⟩, _, _, rfl⟩ := h
  exact recovers_of_build_optional Predicate.read_faithful Predicate.recovers_always hpredicate

theorem Modifier.read_faithful : Modifier.read.Faithful Modifier.toJson :=
  fun _ _ h => recovers (recovers_predicate_of_read h)

theorem Modifier.recovers_iff {m : Modifier} :
    Modifier.read.Recovers Modifier.toJson m ↔
      Predicate.read.Recovers Predicate.toJson m.predicate :=
  ⟨recovers_predicate_of_read, recovers⟩

instance : Resolution.record.Lawful := by
  unfold Resolution.record
  infer_instance

theorem Resolution.recovers {x : Resolution}
    (happlied : (list Modifier.read).Recovers (fun ms => .array (ms.map Modifier.toJson)) x.applied)
    (hall : (list Modifier.read).Recovers (fun ms => .array (ms.map Modifier.toJson)) x.all) :
    Resolution.read.Recovers Resolution.toJson x := by
  obtain ⟨total, applied, all⟩ := x
  apply read_ofFields
  unfold record
  iterate 2 refine build_seq_of_ok ?_ ?_
  refine build_map_of_ok ?_
  · exact build_required_of_recovers (score_ofValue total) (by simp [Entries.find?])
  · exact build_required_of_recovers happlied (by simp [Entries.find?])
  · exact build_required_of_recovers hall (by simp [Entries.find?])

theorem Resolution.read_faithful : Resolution.read.Faithful Resolution.toJson := by
  intro d x h
  obtain ⟨find, h⟩ := exists_build_of_read h
  simp only [record, build_seq, build_map] at h
  obtain ⟨_, ⟨_, ⟨_, _, rfl⟩, _, happlied, rfl⟩, _, hall, rfl⟩ := h
  exact recovers (recovers_of_build_required Modifier.read_faithful.list happlied)
    (recovers_of_build_required Modifier.read_faithful.list hall)

instance : CheckResult.record.Lawful := by
  unfold CheckResult.record
  infer_instance

theorem CheckResult.recovers {x : CheckResult}
    (happlied : (list Modifier.read).Recovers (fun ms => .array (ms.map Modifier.toJson))
      x.appliedModifiers)
    (hall : (list Modifier.read).Recovers (fun ms => .array (ms.map Modifier.toJson))
      x.allModifiers) :
    CheckResult.read.Recovers CheckResult.toJson x := by
  obtain ⟨actor, label, domain, roll, baseTarget, target, success, degrees, unadjustedDegrees,
    modifierTotal, appliedModifiers, allModifiers, adjustments⟩ := x
  apply read_ofFields
  unfold record fields
  iterate 12 refine build_seq_of_ok ?_ ?_
  refine build_map_of_ok ?_
  · exact build_required_of_recovers actor.read_written (by simp [Entries.find?])
  · exact build_required_of_recovers (text_ofValue label) (by simp [Entries.find?])
  · exact build_required_of_recovers domain.recovers (by simp [Entries.find?])
  · exact build_required_of_recovers (score_ofValue roll) (by simp [Entries.find?])
  · exact build_required_of_recovers (score_ofValue baseTarget) (by simp [Entries.find?])
  · exact build_required_of_recovers (score_ofValue target) (by simp [Entries.find?])
  · exact build_required_of_recovers (bool_ofValue success) (by simp [Entries.find?])
  · exact build_required_of_recovers (score_ofValue degrees) (by simp [Entries.find?])
  · exact build_required_of_recovers (score_ofValue unadjustedDegrees) (by simp [Entries.find?])
  · exact build_required_of_recovers (score_ofValue modifierTotal) (by simp [Entries.find?])
  · exact build_required_of_recovers happlied (by simp [Entries.find?])
  · exact build_required_of_recovers hall (by simp [Entries.find?])
  · exact build_required_of_recovers (.list fun tag _ => text_ofValue tag)
      (by simp [Entries.find?])

theorem CheckResult.read_faithful : CheckResult.read.Faithful CheckResult.toJson := by
  intro d x h
  obtain ⟨find, h⟩ := exists_build_of_read h
  simp only [record, build_seq, build_map] at h
  obtain ⟨_, ⟨_, ⟨_, ⟨_, ⟨_, ⟨_, ⟨_, ⟨_, ⟨_, ⟨_, ⟨_, ⟨_, ⟨_, _, rfl⟩, _, _, rfl⟩, _, _, rfl⟩,
    _, _, rfl⟩, _, _, rfl⟩, _, _, rfl⟩, _, _, rfl⟩, _, _, rfl⟩, _, _, rfl⟩, _, _, rfl⟩,
    _, happlied, rfl⟩, _, hall, rfl⟩, _, _, rfl⟩ := h
  exact recovers (recovers_of_build_required Modifier.read_faithful.list happlied)
    (recovers_of_build_required Modifier.read_faithful.list hall)

/-! ## Synthetics -/

instance : DegreeAdjustment.record.Lawful := by
  unfold DegreeAdjustment.record
  infer_instance

theorem DegreeAdjustment.recovers {a : DegreeAdjustment}
    (h : Predicate.read.Recovers Predicate.toJson a.predicate) :
    DegreeAdjustment.read.Recovers DegreeAdjustment.toJson a := by
  obtain ⟨amount, predicate, source⟩ := a
  apply read_ofFields
  unfold record
  iterate 2 refine build_seq_of_ok ?_ ?_
  refine build_map_of_ok ?_
  · exact build_required_of_recovers (score_ofValue amount) (by simp [Entries.find?])
  · exact build_required_of_recovers h (by simp [Entries.find?])
  · exact build_required_of_recovers (text_ofValue source) (by simp [Entries.find?])

theorem DegreeAdjustment.read_faithful :
    DegreeAdjustment.read.Faithful DegreeAdjustment.toJson := by
  intro d a h
  obtain ⟨find, h⟩ := exists_build_of_read h
  simp only [record, build_seq, build_map] at h
  obtain ⟨_, ⟨_, ⟨_, _, rfl⟩, _, hpredicate, rfl⟩, _, _, rfl⟩ := h
  exact recovers (recovers_of_build_required Predicate.read_faithful hpredicate)

instance : DiceOverride.record.Lawful := by
  unfold DiceOverride.record
  infer_instance

theorem DiceOverride.recovers {o : DiceOverride}
    (h : DiceMode.read.Recovers DiceMode.toJson o.mode) :
    DiceOverride.read.Recovers DiceOverride.toJson o := by
  obtain ⟨mode, source⟩ := o
  apply read_ofFields
  unfold record
  refine build_seq_of_ok (build_map_of_ok ?_) ?_
  · exact build_required_of_recovers h (by simp [Entries.find?])
  · exact build_required_of_recovers (text_ofValue source) (by simp [Entries.find?])

theorem DiceOverride.read_faithful : DiceOverride.read.Faithful DiceOverride.toJson := by
  intro d o h
  obtain ⟨find, h⟩ := exists_build_of_read h
  simp only [record, build_seq, build_map] at h
  obtain ⟨_, ⟨_, hmode, rfl⟩, _, _, rfl⟩ := h
  exact recovers (recovers_of_build_required DiceMode.read_faithful hmode)

instance : Resistance.record.Lawful := by
  unfold Resistance.record
  infer_instance

theorem Resistance.recovers (x : Resistance) :
    Resistance.read.Recovers Resistance.toJson x := by
  obtain ⟨damageType, value, mode, source⟩ := x
  apply read_ofFields
  unfold record
  iterate 3 refine build_seq_of_ok ?_ ?_
  refine build_map_of_ok ?_
  · exact build_required_of_recovers (text_ofValue damageType) (by simp [Entries.find?])
  · exact build_required_of_recovers (score_ofValue value) (by simp [Entries.find?])
  · exact build_required_of_recovers mode.recovers (by simp [Entries.find?])
  · exact build_required_of_recovers (text_ofValue source) (by simp [Entries.find?])

instance : ToughnessAdjustment.record.Lawful := by
  unfold ToughnessAdjustment.record
  infer_instance

theorem ToughnessAdjustment.recovers (a : ToughnessAdjustment) :
    ToughnessAdjustment.read.Recovers ToughnessAdjustment.toJson a := by
  obtain ⟨value, mode, source⟩ := a
  apply read_ofFields
  unfold record
  iterate 2 refine build_seq_of_ok ?_ ?_
  refine build_map_of_ok ?_
  · exact build_required_of_recovers (score_ofValue value) (by simp [Entries.find?])
  · exact build_required_of_recovers mode.recovers (by simp [Entries.find?])
  · exact build_required_of_recovers (text_ofValue source) (by simp [Entries.find?])

instance : Synthetics.record.Lawful := by
  unfold Synthetics.record
  infer_instance

theorem Synthetics.recovers {s : Synthetics}
    (hmodifiers : (table (list Modifier.read)).Recovers
      (fun t => .ofTable (t.map fun ms => .array (ms.map Modifier.toJson))) s.modifiers)
    (hdegrees : (list DegreeAdjustment.read).Recovers
      (fun as => .array (as.map DegreeAdjustment.toJson)) s.degreeAdjustments)
    (hdice : (table (list DiceOverride.read)).Recovers
      (fun t => .ofTable (t.map fun os => .array (os.map DiceOverride.toJson))) s.diceOverrides) :
    Synthetics.read.Recovers Synthetics.toJson s := by
  obtain ⟨rollOptions, modifiers, degreeAdjustments, resistances, toughnessAdjustments,
    diceOverrides⟩ := s
  apply read_ofFields
  unfold record
  iterate 5 refine build_seq_of_ok ?_ ?_
  refine build_map_of_ok ?_
  · exact build_required_of_recovers rollOptions.recovers (by simp [Entries.find?])
  · exact build_required_of_recovers hmodifiers (by simp [Entries.find?])
  · exact build_required_of_recovers hdegrees (by simp [Entries.find?])
  · exact build_required_of_recovers (.list fun x _ => Resistance.recovers x)
      (by simp [Entries.find?])
  · exact build_required_of_recovers (.list fun a _ => ToughnessAdjustment.recovers a)
      (by simp [Entries.find?])
  · exact build_required_of_recovers hdice (by simp [Entries.find?])

theorem Synthetics.read_faithful : Synthetics.read.Faithful Synthetics.toJson := by
  intro d s h
  obtain ⟨find, h⟩ := exists_build_of_read h
  simp only [record, build_seq, build_map] at h
  obtain ⟨_, ⟨_, ⟨_, ⟨_, ⟨_, ⟨_, _, rfl⟩, _, hmodifiers, rfl⟩, _, hdegrees, rfl⟩, _, _, rfl⟩,
    _, _, rfl⟩, _, hdice, rfl⟩ := h
  exact recovers (recovers_of_build_required Modifier.read_faithful.list.table hmodifiers)
    (recovers_of_build_required DegreeAdjustment.read_faithful.list hdegrees)
    (recovers_of_build_required DiceOverride.read_faithful.list.table hdice)

end Percentile
