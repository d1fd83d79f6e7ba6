import Percentile.Proofs.Synthetics
import Percentile.Rule.Registry

/-!
# What a preparation does

A preparation runs the rules of all items one after the other on growing synthetics. This file takes
it apart into what each rule source does on its own.

**One source** (`Registry.outcome`). A source is skipped, or its element fails, or it applies; and
it has an effect, which is what it writes into empty synthetics. Neither depends on what the sources
before it have written (`Element.prepare_eq`): to prepare an element is to add its effect.

**All sources** (`Registry.prepare_eq_foldl`). A preparation takes up the outcomes of all sources in
their order: it adds up their effects and counts their verdicts.

**Theorem (`prepare_isolates_failures`).** Sources that are skipped or fail could as well be
missing. An element that fails changes nothing. The statistics count each source once, by its
verdict.
-/

namespace Percentile

/-! ## One element -/

namespace Element

/-- **Preparing is adding.** An element adds to any synthetics what it writes into empty ones, and
whether it fails does not depend on them. -/
theorem prepare_eq (e : Element) (owner : Item) (s : Synthetics) :
    e.prepare owner s = (s ++ (e.prepare owner ∅).1, (e.prepare owner ∅).2) := by
  obtain ⟨_, label, rule⟩ := e
  cases rule with
  | flatModifier r =>
    simp only [prepare]
    split
    · rw [Synthetics.append_empty]
    · rw [Synthetics.addModifier_eq]
  | rollOption r =>
    simp only [prepare]
    split
    · rw [Synthetics.append_empty]
    · rw [Synthetics.addRollOption_eq]
  | diceOverride r =>
    simp only [prepare]
    split
    · rw [Synthetics.append_empty]
    · rw [Synthetics.addDiceOverride_eq]
  | adjustDegree r =>
    simp only [prepare]
    rw [Synthetics.addDegreeAdjustment_eq]
  | resistance r =>
    simp only [prepare]
    split
    · rw [Synthetics.append_empty]
    · rw [Synthetics.addResistance_eq]
  | adjustToughness r =>
    simp only [prepare]
    rw [Synthetics.addToughnessAdjustment_eq]
  | grantItem r =>
    simp only [prepare]
    rw [Synthetics.append_empty]
  | choiceSet r =>
    simp only [prepare]
    split
    · rw [Synthetics.append_empty]
    · cases owner.choice? r.flag with
      | none => exact Prod.ext (Synthetics.append_empty s).symm rfl
      | some stored => exact Prod.ext (Synthetics.addRollOption_eq s _) rfl

/-- **An element that fails changes nothing**, whatever its kind: it looks at its fields before it
writes. -/
theorem prepare_of_error {e : Element} {owner : Item} {s : Synthetics} {cause : RuleError}
    (h : (e.prepare owner s).2 = .error cause) : (e.prepare owner s).1 = s := by
  obtain ⟨_, label, rule⟩ := e
  cases rule with
  | flatModifier r | rollOption r | diceOverride r | resistance r =>
    simp only [prepare] at h ⊢
    split at h <;> simp_all
  | adjustDegree r | adjustToughness r | grantItem r => simp [prepare] at h
  | choiceSet r =>
    simp only [prepare] at h ⊢
    split at h
    · simp_all
    · cases hchoice : owner.choice? r.flag <;> simp [hchoice] at h

theorem prepare_withRules (e : Element) (owner : Item) (rules : List Json) (s : Synthetics) :
    e.prepare { owner with rules } s = e.prepare owner s := by
  obtain ⟨_, label, rule⟩ := e
  cases rule <;> rfl

end Element

/-! ## One source -/

/-- What becomes of a rule source. -/
inductive Verdict where
  /-- Its element takes effect. -/
  | applied
  /-- It gives no element. -/
  | skipped
  /-- Its element fails. -/
  | failed
  deriving DecidableEq

def PreparationStats.tally (stats : PreparationStats) : Verdict → PreparationStats
  | .applied => { stats with applied := stats.applied + 1 }
  | .skipped => { stats with skipped := stats.skipped + 1 }
  | .failed => { stats with failed := stats.failed + 1 }

namespace Registry

/-- What becomes of a rule source of an item. -/
def verdict (r : Registry) (item : Item) (source : Json) : Verdict :=
  match r.element? source item with
  | none => .skipped
  | some e =>
    match (e.prepare item ∅).2 with
    | .ok () => .applied
    | .error _ => .failed

/-- What a rule source of an item writes into empty synthetics. -/
def effect (r : Registry) (item : Item) (source : Json) : Synthetics :=
  match r.element? source item with
  | none => ∅
  | some e => (e.prepare item ∅).1

/-- The verdict and the effect of a rule source of an item. -/
def outcome (r : Registry) (item : Item) (source : Json) : Verdict × Synthetics :=
  (r.verdict item source, r.effect item source)

/-- The outcomes of all rule sources of a list of items, in their order. -/
def outcomes (r : Registry) (items : List Item) : List (Verdict × Synthetics) :=
  items.flatMap fun item => item.rules.map (r.outcome item)

/-- Take up an outcome. -/
def collect (acc : Synthetics × PreparationStats) (o : Verdict × Synthetics) :
    Synthetics × PreparationStats :=
  (acc.1 ++ o.2, acc.2.tally o.1)

variable (r : Registry)

/-- **One step of a preparation.** To run a source is to take up its outcome. -/
theorem runSource_eq (item : Item) (acc : Synthetics × PreparationStats) (source : Json) :
    r.runSource item acc source = collect acc (r.outcome item source) := by
  unfold runSource collect outcome verdict effect
  cases r.element? source item with
  | none =>
    simp only [Synthetics.append_empty]
    rfl
  | some e =>
    simp only
    rw [e.prepare_eq item acc.1]
    cases (e.prepare item ∅).2 <;> rfl

/-- **A preparation takes up all outcomes**, one after the other. -/
theorem prepare_eq_foldl (items : List Item) (s : Synthetics) :
    r.prepare items s = (r.outcomes items).foldl collect (s, {}) := by
  have hitem : r.runItem = fun acc item => (item.rules.map (r.outcome item)).foldl collect acc := by
    funext acc item
    unfold runItem
    rw [List.foldl_map]
    congr 1
    funext acc source
    exact r.runSource_eq item acc source
  rw [prepare, outcomes, List.foldl_flatMap, hitem]

theorem foldl_collect_fst (os : List (Verdict × Synthetics)) (s : Synthetics)
    (stats : PreparationStats) :
    (os.foldl collect (s, stats)).1 = s ++ Synthetics.total (os.map (·.2)) := by
  induction os generalizing s stats with
  | nil => exact (Synthetics.append_empty s).symm
  | cons o rest ih =>
    rw [List.foldl_cons, collect, ih, List.map_cons, Synthetics.total_cons,
      Synthetics.append_assoc]

theorem foldl_collect_snd (os : List (Verdict × Synthetics)) (s : Synthetics)
    (stats : PreparationStats) :
    (os.foldl collect (s, stats)).2 =
      ⟨stats.applied + os.countP (·.1 = .applied), stats.skipped + os.countP (·.1 = .skipped),
        stats.failed + os.countP (·.1 = .failed)⟩ := by
  induction os generalizing s stats with
  | nil => rfl
  | cons o rest ih =>
    obtain ⟨verdict, t⟩ := o
    rw [List.foldl_cons, collect, ih]
    cases verdict <;> simp [PreparationStats.tally, Nat.add_assoc, Nat.add_comm 1]

theorem prepare_fst (items : List Item) (s : Synthetics) :
    (r.prepare items s).1 = s ++ Synthetics.total ((r.outcomes items).map (·.2)) := by
  rw [prepare_eq_foldl, foldl_collect_fst]

theorem prepare_snd (items : List Item) (s : Synthetics) :
    (r.prepare items s).2 =
      ⟨(r.outcomes items).countP (·.1 = .applied), (r.outcomes items).countP (·.1 = .skipped),
        (r.outcomes items).countP (·.1 = .failed)⟩ := by
  rw [prepare_eq_foldl, foldl_collect_snd]
  simp

/-! ## Sources without effect -/

/-- A source does not see the other rules of its item. -/
theorem outcome_withRules (item : Item) (rules : List Json) (source : Json) :
    r.outcome { item with rules } source = r.outcome item source := by
  have helement : r.element? source { item with rules } = r.element? source item := rfl
  unfold outcome verdict effect
  rw [helement]
  cases r.element? source item with
  | none => rfl
  | some e => simp only [e.prepare_withRules]

theorem effect_of_verdict {item : Item} {source : Json} (h : r.verdict item source ≠ .applied) :
    r.effect item source = ∅ := by
  unfold verdict at h
  unfold effect
  cases helement : r.element? source item with
  | none => rfl
  | some e =>
    simp only [helement] at h
    cases herror : (e.prepare item ∅).2 with
    | ok u => simp [herror] at h
    | error cause => exact Element.prepare_of_error herror

/-- Delete the rule sources of an item that are skipped or fail. -/
def purge (item : Item) : Item :=
  { item with rules := item.rules.filter fun source => r.verdict item source = .applied }

theorem outcomes_purge (items : List Item) :
    r.outcomes (items.map r.purge) = (r.outcomes items).filter (·.1 = .applied) := by
  unfold outcomes
  rw [List.filter_flatMap, List.flatMap_map]
  congr 1
  funext item
  rw [List.filter_map]
  show (item.rules.filter _).map (r.outcome (r.purge item)) = _
  rw [show r.outcome (r.purge item) = r.outcome item from
    funext fun source => r.outcome_withRules item _ source]
  rfl

theorem eq_empty_of_mem_outcomes {items : List Item} {o : Verdict × Synthetics}
    (ho : o ∈ r.outcomes items) (h : o.1 ≠ .applied) : o.2 = ∅ := by
  obtain ⟨item, _, hitem⟩ := List.mem_flatMap.1 ho
  obtain ⟨source, _, rfl⟩ := List.mem_map.1 hitem
  exact r.effect_of_verdict h

theorem total_effects_purge (items : List Item) :
    Synthetics.total ((r.outcomes (items.map r.purge)).map (·.2)) =
      Synthetics.total ((r.outcomes items).map (·.2)) := by
  rw [outcomes_purge]
  refine Synthetics.total_map_filter fun o ho hverdict => ?_
  exact r.eq_empty_of_mem_outcomes ho (by simpa using hverdict)

/-- The verdicts on all rule sources of a list of items, in their order. -/
def verdicts (items : List Item) : List Verdict :=
  items.flatMap fun item => item.rules.map (r.verdict item)

theorem countP_outcomes (items : List Item) (v : Verdict) :
    (r.outcomes items).countP (·.1 = v) = (r.verdicts items).count v := by
  have hverdicts : r.verdicts items = (r.outcomes items).map (·.1) := by
    simp only [verdicts, outcomes, List.map_flatMap, List.map_map]
    rfl
  rw [hverdicts, List.count, List.countP_map]
  congr 1

theorem count_verdicts (vs : List Verdict) :
    vs.count .applied + vs.count .skipped + vs.count .failed = vs.length := by
  induction vs with
  | nil => rfl
  | cons v rest ih => cases v <;> simp <;> omega

/-- **Failures are isolated.** Purging the items of all sources that are skipped or fail changes
nothing in the result. An element that fails leaves the synthetics as they were, and whether it
fails does not depend on them. The statistics count each source by its verdict, so their sum is the
number of sources. -/
theorem prepare_isolates_failures (items : List Item) (s : Synthetics) :
    (r.prepare (items.map r.purge) s).1 = (r.prepare items s).1 ∧
    (∀ (e : Element) (owner : Item) (t : Synthetics),
      (e.prepare owner t).2 = (e.prepare owner ∅).2 ∧
      ∀ cause, (e.prepare owner t).2 = .error cause → (e.prepare owner t).1 = t) ∧
    (r.prepare items s).2.applied = (r.verdicts items).count .applied ∧
    (r.prepare items s).2.skipped = (r.verdicts items).count .skipped ∧
    (r.prepare items s).2.failed = (r.verdicts items).count .failed ∧
    (r.prepare items s).2.applied + (r.prepare items s).2.skipped + (r.prepare items s).2.failed =
      (items.flatMap (·.rules)).length := by
  have hstats := r.prepare_snd items s
  simp only [countP_outcomes] at hstats
  refine ⟨?_, fun e owner t => ⟨?_, fun cause h => Element.prepare_of_error h⟩, ?_, ?_, ?_, ?_⟩
  · rw [prepare_fst, prepare_fst, total_effects_purge]
  · rw [e.prepare_eq owner t]
  · rw [hstats]
  · rw [hstats]
  · rw [hstats]
  · rw [hstats, count_verdicts]
    simp [verdicts, List.length_flatMap]

end Registry

end Percentile
