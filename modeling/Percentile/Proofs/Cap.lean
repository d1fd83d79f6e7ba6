import Percentile.Proofs.Confirmation
import Percentile.Proofs.Drift

/-!
# The cap holds

A configuration may hold any score as its cap, also a negative one, and the modifiers of a check may
come to any sum. This file shows that the total stays within the cap nevertheless, and that capping
cannot go wrong on the way.

**Steps that can fail** (`Score.within?`). To cap a sum at a bound is to take the opposite of the
bound, which the least score does not have, and to move the sum between the two, whose order has to
be right. Exactly the negative bounds fail (`within?_eq_none_iff`). A resolution raises its cap to
zero first, so it never gets there (`resolve?_eq_some`).

**What the cap leaves** (`Resolution.Capped`). A total is the sum itself if the bound allows it, and
otherwise the bound with the sign of the sum.

**Theorem (`total_within_cap`).** Both hold of every resolution. A text gives a configuration
exactly if it can be read and its cap is not negative. No result of an engine with such a
configuration has a modifier total beyond the cap, unless a dialog puts a check with another cap in
the place of the prepared one.
-/

namespace Percentile

/-! ## Steps that can fail -/

namespace Score

/-- The opposite of a score, if it lies in the range. -/
def opposite? (a : Score) : Option Score := ofInt? (-a.toInt)

/-- The score between two ends that is nearest to `a`, if the ends are in order. -/
def between? (lo hi a : Score) : Option Score :=
  if hi < lo then none else some (if a < lo then lo else if hi < a then hi else a)

/-- The score nearest to `a` between a bound and its opposite, if both steps succeed. -/
def within? (bound a : Score) : Option Score := do
  let lo ← bound.opposite?
  between? lo bound a

variable {a b bound : Score}

theorem not_lt_iff : ¬ a < b ↔ b ≤ a := Int.not_lt

theorem opposite?_of_least_lt (h : least < a) : a.opposite? = some a.opposite :=
  ofInt?_eq_some_iff.2 (toInt_opposite h)

theorem opposite?_least : least.opposite? = none := by decide

/-- A bound that is not negative lets both steps succeed. -/
theorem within?_of_nonneg (h : 0 ≤ bound) (a : Score) :
    bound.within? a = some (within bound a) := by
  rw [le_iff, toInt_zero] at h
  have hleast : least < bound := by
    rw [lt_iff, toInt_least]
    omega
  have hopposite := toInt_opposite hleast
  have horder : ¬ bound < bound.opposite := by
    rw [lt_iff]
    omega
  rw [within?, opposite?_of_least_lt hleast, Option.bind_eq_bind, Option.bind_some, between?,
    if_neg horder]
  congr 1
  apply Score.ext
  rw [toInt_within]
  simp only [lt_iff]
  split
  · omega
  · split <;> omega

/-- The least score has no opposite, and the opposite of any other negative one lies above it. -/
theorem within?_of_neg (h : bound < 0) (a : Score) : bound.within? a = none := by
  rw [lt_iff, toInt_zero] at h
  by_cases hleast : least < bound
  · have hopposite := toInt_opposite hleast
    have horder : bound < bound.opposite := by
      rw [lt_iff]
      omega
    rw [within?, opposite?_of_least_lt hleast, Option.bind_eq_bind, Option.bind_some, between?,
      if_pos horder]
  · have heq : bound = least := by
      apply Score.ext
      have hlow := bound.least_le
      rw [lt_iff, toInt_least] at hleast
      rw [toInt_least]
      omega
    rw [within?, heq, opposite?_least, Option.bind_eq_bind, Option.bind_none]

/-- **Exactly the negative bounds fail.** -/
theorem within?_eq_none_iff : bound.within? a = none ↔ bound < 0 := by
  refine ⟨fun hnone => ?_, fun h => within?_of_neg h a⟩
  by_contra hnonneg
  rw [within?_of_nonneg (not_lt_iff.1 hnonneg)] at hnone
  cases hnone

/-- A negative cap acts as zero. -/
theorem within_max_zero (cap a : Score) : within (max cap 0) a = within cap a := by
  apply Score.ext
  rw [toInt_within, toInt_within, toInt_max, toInt_zero]
  omega

end Score

/-! ## What the cap leaves -/

namespace Resolution

/-- Resolve modifiers with the cap raised to zero, in steps of which some can fail. -/
def resolve? (ms : List Modifier) (options : RollOptions) (cap : Score) : Option Resolution := do
  let applied := Modifier.exclude (ms.filter (·.isActive options))
  let total ← Score.within? (max cap 0) (.sum (applied.map (·.value)))
  return { total, applied, all := ms }

/-- **No step of a resolution fails.** -/
theorem resolve?_eq_some (ms : List Modifier) (options : RollOptions) (cap : Score) :
    resolve? ms options cap = some (resolve ms options cap) := by
  have hnonneg : 0 ≤ max cap 0 := by
    rw [Score.le_iff, Score.toInt_max, Score.toInt_zero]
    omega
  simp only [resolve?, Score.within?_of_nonneg hnonneg, Score.within_max_zero]
  rfl

/-- The total is the sum of the applied values, moved between a bound and its opposite. -/
structure Capped (r : Resolution) (bound : Int) : Prop where
  natAbs_total_le : (r.total.toInt.natAbs : Int) ≤ bound
  wasCapped_iff : r.wasCapped = true ↔ bound < r.uncappedTotal.toInt.natAbs
  /-- A sum beyond the bound becomes the bound with the sign of the sum. -/
  of_wasCapped : r.wasCapped = true → r.total.toInt = r.uncappedTotal.toInt.sign * bound
  /-- A sum within the bound stays as it is. -/
  of_not_wasCapped : r.wasCapped = false → r.total = r.uncappedTotal

theorem wasCapped_iff_ne {r : Resolution} : r.wasCapped = true ↔ r.uncappedTotal ≠ r.total :=
  bne_iff_ne

theorem toInt_total (ms : List Modifier) (options : RollOptions) (cap : Score) :
    (resolve ms options cap).total.toInt = max (-(max cap.toInt 0))
      (min (resolve ms options cap).uncappedTotal.toInt (max cap.toInt 0)) :=
  Score.toInt_within cap _

theorem capped_resolve (ms : List Modifier) (options : RollOptions) (cap : Score) :
    (resolve ms options cap).Capped (max cap.toInt 0) := by
  have htotal := toInt_total ms options cap
  generalize resolve ms options cap = r at htotal ⊢
  have hiff : r.wasCapped = true ↔ max cap.toInt 0 < r.uncappedTotal.toInt.natAbs := by
    rw [wasCapped_iff_ne, ne_eq, Score.ext_iff]
    omega
  refine ⟨by omega, hiff, fun hcapped => ?_, fun hcapped => ?_⟩
  · have hbeyond := hiff.1 hcapped
    rcases Int.lt_or_gt_of_ne (by omega : r.uncappedTotal.toInt ≠ 0) with hneg | hpos
    · rw [Int.sign_eq_neg_one_of_neg hneg]
      omega
    · rw [Int.sign_eq_one_of_pos hpos]
      omega
  · by_contra hne
    rw [wasCapped_iff_ne.2 (Ne.symm hne)] at hcapped
    cases hcapped

end Resolution

/-! ## Configurations -/

namespace Configuration

variable {text : String} {c c' : Configuration}

theorem validate_eq_ok_iff : c'.validate = .ok c ↔ c' = c ∧ 0 ≤ c.modifierCap := by
  rw [← Score.not_lt_iff]
  unfold validate
  split
  · rename_i hneg
    refine iff_of_false nofun ?_
    rintro ⟨rfl, hnonneg⟩
    exact hnonneg hneg
  · rename_i hnonneg
    rw [Except.ok.injEq]
    refine ⟨?_, And.left⟩
    rintro rfl
    exact ⟨rfl, hnonneg⟩

theorem validate_eq_negativeCap_iff {cap : Score} :
    c.validate = .error (.negativeCap cap) ↔ c.modifierCap = cap ∧ cap < 0 := by
  unfold validate
  split
  · rename_i hneg
    rw [Except.error.injEq, ConfigurationError.negativeCap.injEq]
    refine ⟨?_, And.left⟩
    rintro rfl
    exact ⟨rfl, hneg⟩
  · rename_i hnonneg
    refine iff_of_false nofun ?_
    rintro ⟨rfl, hneg⟩
    exact hnonneg hneg

theorem ofText_eq_ok_iff :
    ofText text = .ok c ↔ read.readText text = .ok c ∧ 0 ≤ c.modifierCap := by
  unfold ofText
  cases read.readText text with
  | error cause => exact iff_of_false nofun fun h => nomatch h.1
  | ok c' =>
    rw [Except.ok.injEq]
    exact validate_eq_ok_iff

theorem ofText_eq_negativeCap_iff {cap : Score} :
    ofText text = .error (.negativeCap cap) ↔ read.readText text = .ok ⟨cap⟩ ∧ cap < 0 := by
  unfold ofText
  cases read.readText text with
  | error cause => exact iff_of_false nofun fun h => nomatch h.1
  | ok c' =>
    obtain ⟨cap'⟩ := c'
    rw [Except.ok.injEq, Configuration.mk.injEq]
    exact validate_eq_negativeCap_iff

end Configuration

/-! ## Checks -/

/-- A pending check is capped by the cap that it carries. -/
theorem PendingCheck.natAbs_modifierTotal_result_le (p : PendingCheck) (roll : Score) :
    ((p.result roll).modifierTotal.toInt.natAbs : Int) ≤ max p.cap.toInt 0 :=
  (Resolution.capped_resolve p.modifiers p.rollOptions p.cap).natAbs_total_le

namespace Engine

variable {e : Engine} {c : Context}

/-- A check that is rolled is the prepared one or what the dialog has left of it. -/
theorem confirm_cases {δ : Type} {dialog : Dialog δ} {d : δ} {p : PendingCheck}
    (h : (e.confirm c dialog d).1 = some p) :
    p = e.prepare c ∨ p = (dialog d (e.prepare c)).1.1 := by
  unfold confirm at h
  split at h
  · exact .inl (Option.some.inj h).symm
  · exact .inr (Option.some.inj (Option.ite_none_right_eq_some.1 h).2).symm

/-- A roll gives a result only by finishing the check that is confirmed. -/
theorem exists_confirm_of_roll {σ δ : Type} [DieRoller σ] {dialog : Dialog δ} {s : Session σ}
    {d : δ} {r : CheckResult} (h : (e.roll c dialog s d).1 = some r) :
    ∃ p, (e.confirm c dialog d).1 = some p ∧ r = (e.finish p s.dice).1 := by
  unfold roll at h
  rcases hconfirm : e.confirm c dialog d with ⟨_ | p, d'⟩
  · rw [hconfirm] at h
    cases h
  · rw [hconfirm] at h
    exact ⟨p, rfl, (Option.some.inj h).symm⟩

/-- Amendments leave the cap of the engine that has prepared the check. -/
theorem cap_amendAll (amendments : List Amendment) :
    ((e.prepare c).amendAll amendments).cap = e.configuration.modifierCap := by
  rw [PendingCheck.amendAll_eq]
  rfl

/-- **The total stays within the cap.** No step of a resolution fails, whatever the values and the
cap, and the total is the sum under the cap, where a negative cap counts as zero. A text is refused
for its cap exactly if it can be read and the cap is negative. An engine whose configuration was
read from text prepares checks whose modifier totals do not go beyond the cap, whatever is amended
and whoever finishes them. The same goes for checks that the engine rolls itself, with any dialog
that leaves them the cap of the engine, and so with all that only make amendments. -/
theorem total_within_cap {σ δ : Type} [DieRoller σ] :
    (∀ (ms : List Modifier) (options : RollOptions) (cap : Score),
      Resolution.resolve? ms options cap = some (.resolve ms options cap) ∧
      (Resolution.resolve ms options cap).Capped (max cap.toInt 0)) ∧
    ∀ text : String,
      (∀ c, Configuration.ofText text = .ok c ↔
        Configuration.read.readText text = .ok c ∧ 0 ≤ c.modifierCap) ∧
      (∀ cap, Configuration.ofText text = .error (.negativeCap cap) ↔
        Configuration.read.readText text = .ok ⟨cap⟩ ∧ cap < 0) ∧
      ∀ e : Engine, Configuration.ofText text = .ok e.configuration → ∀ c : Context,
        (∀ (e' : Engine) (amendments : List Amendment) (dice : σ),
          let r := (e'.finish ((e.prepare c).amendAll amendments) dice).1
          (r.modifierTotal.toInt.natAbs : Int) ≤ e.configuration.modifierCap.toInt) ∧
        (∀ (dialog : Dialog δ) (s : Session σ) (d : δ) (r : CheckResult),
          (dialog d (e.prepare c)).1.1.cap = e.configuration.modifierCap →
          (e.roll c dialog s d).1 = some r →
            (r.modifierTotal.toInt.natAbs : Int) ≤ e.configuration.modifierCap.toInt) ∧
        ∀ (choose : δ → PendingCheck → (List Amendment × Decision) × δ) (s : Session σ) (d : δ)
          (r : CheckResult), (e.roll c (.amending choose) s d).1 = some r →
            (r.modifierTotal.toInt.natAbs : Int) ≤ e.configuration.modifierCap.toInt := by
  refine ⟨fun ms options cap => ⟨Resolution.resolve?_eq_some ms options cap,
    Resolution.capped_resolve ms options cap⟩, fun text => ⟨fun _ => Configuration.ofText_eq_ok_iff,
    fun _ => Configuration.ofText_eq_negativeCap_iff, fun e htext c => ?_⟩⟩
  have hnonneg := (Configuration.ofText_eq_ok_iff.1 htext).2
  rw [Score.le_iff, Score.toInt_zero] at hnonneg
  have hresult : ∀ (p : PendingCheck) (roll : Score), p.cap = e.configuration.modifierCap →
      ((p.result roll).modifierTotal.toInt.natAbs : Int) ≤ e.configuration.modifierCap.toInt := by
    intro p roll hcap
    have hle := p.natAbs_modifierTotal_result_le roll
    rwa [hcap, Int.max_eq_left hnonneg] at hle
  have hroll : ∀ (dialog : Dialog δ) (s : Session σ) (d : δ) (r : CheckResult),
      (dialog d (e.prepare c)).1.1.cap = e.configuration.modifierCap →
      (e.roll c dialog s d).1 = some r →
        (r.modifierTotal.toInt.natAbs : Int) ≤ e.configuration.modifierCap.toInt := by
    intro dialog s d r hcap hsome
    obtain ⟨p, hconfirm, rfl⟩ := exists_confirm_of_roll hsome
    apply hresult
    rcases confirm_cases hconfirm with rfl | rfl
    · rfl
    · exact hcap
  refine ⟨fun e' amendments dice => hresult _ _ (cap_amendAll amendments), hroll, ?_⟩
  intro choose s d r hsome
  exact hroll _ s d r (cap_amendAll (choose d (e.prepare c)).1.1) hsome

/-! ### A charge under house rules

The house rules cap totals at 30. A stimulant gives 50, and the player takes another one while the
charge awaits confirmation. Under the least of all caps nothing is left of it.
-/

def houseRules : String := "\x7b \"modifierCap\": 30 \x7d"

def stimulant : Modifier where
  label := "Stimulant"
  value := 50

def charge : Context where
  actor := { name := "Berserker" }
  baseTarget := 40
  label := "Charge"
  domain := ⟨"characteristic:ws"⟩
  modifiers := [stimulant]

/-- The charge with a second stimulant. -/
def boostedCharge : Option CheckResult :=
  (roll { configuration := ⟨30⟩ } charge
    (.amending fun d _ => (([.addModifier stimulant], .confirmed), d))
    ({ dice := { queue := [25] } } : Session ScriptedDice) ()).1

theorem total_within_cap_charge :
    Configuration.ofText houseRules = .ok ⟨30⟩ ∧
    (∀ r, boostedCharge = some r → r.modifierTotal.toInt.natAbs ≤ 30) ∧
    boostedCharge.map (·.modifierTotal.toInt) = some 30 ∧
    (Resolution.resolve [stimulant] ∅ .least).wasCapped = true ∧
    (Resolution.resolve [stimulant] ∅ .least).total.toInt = 0 := by
  have htext : Configuration.ofText houseRules = .ok ⟨30⟩ := by decide +kernel
  obtain ⟨hresolve, hchecks⟩ := total_within_cap (σ := ScriptedDice) (δ := Unit)
  have hcharge := ((hchecks houseRules).2.2 { configuration := ⟨30⟩ } htext charge).2.2
  have hcapped : (Resolution.resolve [stimulant] ∅ .least).wasCapped = true := by decide +kernel
  have htotal := (hresolve [stimulant] ∅ .least).2.of_wasCapped hcapped
  refine ⟨htext, fun r hr => ?_, by decide +kernel, hcapped, htotal.trans (by decide +kernel)⟩
  exact Int.ofNat_le.1 (hcharge _ _ () r hr)

end Engine

end Percentile
