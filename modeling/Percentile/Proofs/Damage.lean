import Percentile.Proofs.Drift
import Percentile.Proofs.Sum
import Percentile.Synthetics

/-!
# What resistances leave of damage

Resistances stand in a list, in any order, and each works against one type of damage or against all.
This file says how the damage that is left depends on the amount and on that list.

**Two readings of the list.** All that counts is whether some resistance against the type halves
(`Resistance.Halve`), and the values of the flat ones against it, in their order
(`Resistance.flatValues`). One more resistance changes at most one of the two: a flat one adds its
value (`halved_insert_of_flat`, `flatValues_insert_of_flat`), and one that halves adds none
(`halved_insert_of_half`, `flatValues_insert_of_half`).

**In the middle of a sum.** The flat values are added up with saturation, where order matters. A
term that joins the sum anywhere still moves it in its own direction, because all additions behind
it keep the order of scores (`Score.sum_le_sum_insert`, `Score.sum_insert_le_sum`).

**Theorem (`damageLeft_follows_resistances`).** More damage never leaves less, one more resistance
moves what is left in the direction of its value, and nothing is lost as long as the flat values
together fit the range.
-/

namespace Percentile

namespace Score

/-! ## One more term in a sum -/

theorem sum_append (front back : List Score) :
    sum (front ++ back) = back.foldl (· + ·) (sum front) := List.foldl_append

/-- A term that is not negative raises a sum, wherever it joins. -/
theorem sum_le_sum_insert {v : Score} (h : 0 ≤ v) (front back : List Score) :
    sum (front ++ back) ≤ sum (front ++ v :: back) := by
  rw [sum_append, sum_append, List.foldl_cons]
  apply foldl_add_mono
  have hgreatest := (sum front).le_greatest
  rw [le_iff, toInt_zero] at h
  rw [le_iff, toInt_add]
  omega

/-- A term that is not positive lowers a sum, wherever it joins. -/
theorem sum_insert_le_sum {v : Score} (h : v ≤ 0) (front back : List Score) :
    sum (front ++ v :: back) ≤ sum (front ++ back) := by
  rw [sum_append, sum_append, List.foldl_cons]
  apply foldl_add_mono
  have hleast := (sum front).least_le
  rw [le_iff, toInt_zero] at h
  rw [le_iff, toInt_add]
  omega

end Score

namespace Resistance

/-! ## The two readings -/

variable {r : Resistance} {rs front back : List Resistance} {damageType damageType' : String}

/-- Some resistance against the type halves. -/
def Halve (rs : List Resistance) (damageType : String) : Prop :=
  ∃ r ∈ rs, r.isAgainst damageType = true ∧ r.mode = .half

instance : Decidable (Halve rs damageType) := by
  unfold Halve
  infer_instance

/-- The amount, halved and rounded down if some resistance against the type halves. -/
def halved (rs : List Resistance) (damageType : String) (amount : Int) : Int :=
  if Halve rs damageType then amount / 2 else amount

/-- The values of the flat resistances against the type, in their order. -/
def flatValues (rs : List Resistance) (damageType : String) : List Score :=
  ((rs.filter (·.isAgainst damageType)).filter (·.mode == .flat)).map (·.value)

theorem halve_iff_any :
    Halve rs damageType ↔ (rs.filter (·.isAgainst damageType)).any (·.mode == .half) = true := by
  simp [Halve]

theorem halve_insert_iff :
    Halve (front ++ r :: back) damageType ↔
      Halve (front ++ back) damageType ∨ (r.isAgainst damageType = true ∧ r.mode = .half) := by
  simp only [Halve, List.mem_append, List.mem_cons]
  constructor
  · rintro ⟨x, hx | rfl | hx, hhalves⟩
    · exact .inl ⟨x, .inl hx, hhalves⟩
    · exact .inr hhalves
    · exact .inl ⟨x, .inr hx, hhalves⟩
  · rintro (⟨x, hx | hx, hhalves⟩ | hhalves)
    · exact ⟨x, .inl hx, hhalves⟩
    · exact ⟨x, .inr (.inr hx), hhalves⟩
    · exact ⟨r, .inr (.inl rfl), hhalves⟩

/-- A flat resistance halves nothing. -/
theorem halved_insert_of_flat (hflat : r.mode = .flat) (amount : Int) :
    halved (front ++ r :: back) damageType amount = halved (front ++ back) damageType amount := by
  simp [halved, halve_insert_iff, hflat]

theorem halved_insert_of_half (hagainst : r.isAgainst damageType = true) (hhalf : r.mode = .half)
    (amount : Int) : halved (front ++ r :: back) damageType amount = amount / 2 :=
  if_pos (halve_insert_iff.2 (.inr ⟨hagainst, hhalf⟩))

/-- Of an amount that is not negative, halving leaves no more. -/
theorem half_le_halved {amount : Int} (h : 0 ≤ amount) :
    amount / 2 ≤ halved rs damageType amount := by
  unfold halved
  split <;> omega

theorem flatValues_append :
    flatValues (front ++ back) damageType =
      flatValues front damageType ++ flatValues back damageType := by
  simp [flatValues]

/-- The value of a flat resistance joins the others. -/
theorem flatValues_insert_of_flat (hagainst : r.isAgainst damageType = true)
    (hflat : r.mode = .flat) :
    flatValues (front ++ r :: back) damageType =
      flatValues front damageType ++ r.value :: flatValues back damageType := by
  simp [flatValues, hagainst, hflat]

/-- A resistance that halves has no value. -/
theorem flatValues_insert_of_half (hhalf : r.mode = .half) :
    flatValues (front ++ r :: back) damageType = flatValues (front ++ back) damageType := by
  by_cases hagainst : r.isAgainst damageType = true
  · simp [flatValues, hagainst, hhalf]
  · simp [flatValues, hagainst]

/-- Types that differ in the case of ASCII letters alone are resisted alike. -/
theorem isAgainst_congr (h : sameType damageType' damageType = true) (r : Resistance) :
    r.isAgainst damageType' = r.isAgainst damageType := by
  unfold isAgainst sameType
  rw [eq_of_beq h]

end Resistance

namespace Synthetics

open Resistance

variable {s s' : Synthetics} {damageType : String} {amount : Score}

/-! ## What is left -/

theorem damageLeft_eq (s : Synthetics) (damageType : String) (amount : Score) :
    s.damageLeft damageType amount =
      max ((if Halve s.resistances damageType then amount.divFloor 2 else amount) -
        .sum (flatValues s.resistances damageType)) 0 := by
  simp only [halve_iff_any]
  rfl

theorem toInt_damageLeft (s : Synthetics) (damageType : String) (amount : Score) :
    (s.damageLeft damageType amount).toInt =
      max 0 (min (halved s.resistances damageType amount.toInt -
        (Score.sum (flatValues s.resistances damageType)).toInt) Score.greatest.toInt) := by
  have hgreatest : Score.greatest.toInt = 9223372036854775807 := rfl
  rw [damageLeft_eq, Score.toInt_max, Score.toInt_sub, Score.toInt_zero, halved]
  split
  · rw [Score.toInt_divFloor amount 2 (by decide)]
    omega
  · omega

/-- Resistances against other types have no say. -/
theorem damageLeft_congr (h : s'.resistances.filter (·.isAgainst damageType) =
    s.resistances.filter (·.isAgainst damageType)) (amount : Score) :
    s'.damageLeft damageType amount = s.damageLeft damageType amount := by
  unfold damageLeft
  rw [h]

/-- Less damage before the flat values, and more of these, leave no more. -/
theorem damageLeft_le_damageLeft
    (hhalved : halved s'.resistances damageType amount.toInt ≤
      halved s.resistances damageType amount.toInt)
    (hflat : Score.sum (flatValues s.resistances damageType) ≤
      Score.sum (flatValues s'.resistances damageType)) :
    s'.damageLeft damageType amount ≤ s.damageLeft damageType amount := by
  rw [Score.le_iff] at hflat
  rw [Score.le_iff, toInt_damageLeft, toInt_damageLeft]
  omega

/-! ### One more resistance -/

section Insert

variable {r : Resistance} {front back : List Resistance} (hsplit : s.resistances = front ++ back)
include hsplit

theorem damageLeft_insert_of_other (hother : r.isAgainst damageType = false) (amount : Score) :
    { s with resistances := front ++ r :: back }.damageLeft damageType amount =
      s.damageLeft damageType amount := by
  apply damageLeft_congr
  simp [hsplit, hother]

theorem damageLeft_insert_of_halve (hhalf : r.mode = .half)
    (hhalve : Halve s.resistances damageType) (amount : Score) :
    { s with resistances := front ++ r :: back }.damageLeft damageType amount =
      s.damageLeft damageType amount := by
  have hhalve' : Halve (front ++ r :: back) damageType :=
    halve_insert_iff.2 (.inl (hsplit ▸ hhalve))
  apply Score.toInt_injective
  rw [toInt_damageLeft, toInt_damageLeft, halved, halved, if_pos hhalve, if_pos hhalve',
    flatValues_insert_of_half hhalf, hsplit]

theorem damageLeft_insert_le (hagainst : r.isAgainst damageType = true) (hflat : r.mode = .flat)
    (hnonneg : 0 ≤ r.value) (amount : Score) :
    { s with resistances := front ++ r :: back }.damageLeft damageType amount ≤
      s.damageLeft damageType amount := by
  apply damageLeft_le_damageLeft
  · apply Int.le_of_eq
    rw [hsplit, halved_insert_of_flat hflat]
  · rw [flatValues_insert_of_flat hagainst hflat, hsplit, flatValues_append]
    exact Score.sum_le_sum_insert hnonneg _ _

theorem le_damageLeft_insert (hagainst : r.isAgainst damageType = true) (hflat : r.mode = .flat)
    (hnonpos : r.value ≤ 0) (amount : Score) :
    s.damageLeft damageType amount ≤
      { s with resistances := front ++ r :: back }.damageLeft damageType amount := by
  apply damageLeft_le_damageLeft
  · apply Int.le_of_eq
    rw [hsplit, halved_insert_of_flat hflat]
  · rw [flatValues_insert_of_flat hagainst hflat, hsplit, flatValues_append]
    exact Score.sum_insert_le_sum hnonpos _ _

theorem damageLeft_insert_half_le (hagainst : r.isAgainst damageType = true)
    (hhalf : r.mode = .half) (hamount : 0 ≤ amount) :
    { s with resistances := front ++ r :: back }.damageLeft damageType amount ≤
      s.damageLeft damageType amount := by
  rw [Score.le_iff, Score.toInt_zero] at hamount
  apply damageLeft_le_damageLeft
  · rw [halved_insert_of_half hagainst hhalf]
    exact half_le_halved hamount
  · rw [flatValues_insert_of_half hhalf, hsplit]
    exact Int.le_refl _

end Insert

/-! ### All together -/

/-- **Damage follows the amount and the resistances.** What is left is not negative, and more damage
leaves no less. The case of ASCII letters in the type does not matter, and neither do resistances
against other types. One more resistance, anywhere among the others, does nothing if it is against
another type, or if it halves and another one does already. If it is flat and against the type, it
does not raise what is left if its value is not negative, and does not lower it if its value is not
positive. If it halves, it does not raise what is left of an amount that is not negative. As long as
the absolute values of the flat resistances against the type add up to a score, what is left is the
amount, halved and rounded down if any of them halves, less the exact sum of the flat values, moved
into the range from zero. -/
theorem damageLeft_follows_resistances (s : Synthetics) (damageType : String) :
    (∀ amount, 0 ≤ s.damageLeft damageType amount) ∧
    (∀ amount amount', amount ≤ amount' →
      s.damageLeft damageType amount ≤ s.damageLeft damageType amount') ∧
    (∀ damageType', sameType damageType' damageType = true →
      ∀ amount, s.damageLeft damageType' amount = s.damageLeft damageType amount) ∧
    (∀ s' : Synthetics, s'.resistances.filter (·.isAgainst damageType) =
        s.resistances.filter (·.isAgainst damageType) →
      ∀ amount, s'.damageLeft damageType amount = s.damageLeft damageType amount) ∧
    (∀ front back, s.resistances = front ++ back → ∀ r amount,
      let before := s.damageLeft damageType amount
      let after := { s with resistances := front ++ r :: back }.damageLeft damageType amount
      (r.isAgainst damageType = false → after = before) ∧
      (r.mode = .half → Halve s.resistances damageType → after = before) ∧
      (r.isAgainst damageType = true → r.mode = .flat →
        (0 ≤ r.value → after ≤ before) ∧ (r.value ≤ 0 → before ≤ after)) ∧
      (r.isAgainst damageType = true → r.mode = .half → 0 ≤ amount → after ≤ before)) ∧
    ((Score.magnitude (flatValues s.resistances damageType) : Int) ≤ Score.greatest.toInt →
      ∀ amount, (s.damageLeft damageType amount).toInt =
        max 0 (min (halved s.resistances damageType amount.toInt -
          ((flatValues s.resistances damageType).map (·.toInt)).sum) Score.greatest.toInt)) := by
  refine ⟨?_, ?_, ?_, fun s' => damageLeft_congr, ?_, ?_⟩
  · intro amount
    rw [Score.le_iff, toInt_damageLeft, Score.toInt_zero]
    omega
  · intro amount amount' h
    rw [Score.le_iff] at h
    rw [Score.le_iff, toInt_damageLeft, toInt_damageLeft]
    unfold halved
    split <;> omega
  · intro damageType' h amount
    unfold damageLeft
    rw [show (isAgainst · damageType') = (isAgainst · damageType) from funext (isAgainst_congr h)]
  · intro front back hsplit r amount before after
    refine ⟨fun hother => damageLeft_insert_of_other hsplit hother amount,
      fun hhalf hhalve => damageLeft_insert_of_halve hsplit hhalf hhalve amount,
      fun hagainst hflat => ⟨?_, ?_⟩, ?_⟩
    · exact fun hnonneg => damageLeft_insert_le hsplit hagainst hflat hnonneg amount
    · exact fun hnonpos => le_damageLeft_insert hsplit hagainst hflat hnonpos amount
    · exact fun hagainst hhalf => damageLeft_insert_half_le hsplit hagainst hhalf
  · intro hrange amount
    rw [toInt_damageLeft, Score.toInt_sum hrange]

/-! ### Armour against flames

A carapace takes four off the damage of flames, but a scorched patch adds one. A refractor field
halves what comes in, once, however many fields there are. Padding only helps against blows.
-/

def padding : Resistance := ⟨"impact", 3, .flat, "Padding"⟩

def carapace : Resistance := ⟨"energy", 4, .flat, "Carapace"⟩

def scorchedPatch : Resistance := ⟨"Energy", .clamp (-1), .flat, "Scorched Patch"⟩

def refractorField : Resistance := ⟨"all", 0, .half, "Refractor Field"⟩

def armoured : Synthetics := { resistances := [padding, carapace] }

def shielded : Synthetics := { armoured with resistances := [padding, refractorField, carapace] }

/-- The damage of flames that is left of 21 behind the given resistances. -/
def burn (resistances : List Resistance) : Score :=
  damageLeft { armoured with resistances } "energy" 21

theorem damageLeft_follows_resistances_flames :
    (0 ≤ shielded.damageLeft "energy" .least ∧
      shielded.damageLeft "energy" (.clamp (-3)) ≤ shielded.damageLeft "energy" 21) ∧
    (shielded.damageLeft "ENERGY" 21 = shielded.damageLeft "energy" 21 ∧
      burn [refractorField, carapace, padding] = burn [padding, refractorField, carapace]) ∧
    (burn [padding, padding, carapace] = burn [padding, carapace] ∧
      burn [padding, refractorField, carapace, refractorField] =
        burn [padding, refractorField, carapace] ∧
      burn [padding, carapace, carapace] ≤ burn [padding, carapace] ∧
      burn [padding, carapace] ≤ burn [padding, scorchedPatch, carapace] ∧
      burn [padding, refractorField, carapace] ≤ burn [padding, carapace]) ∧
    ((Score.magnitude (flatValues shielded.resistances "energy") : Int) ≤ Score.greatest.toInt ∧
      (shielded.damageLeft "energy" 21).toInt = 6) := by
  obtain ⟨-, -, -, -, hinsert, -⟩ := damageLeft_follows_resistances armoured "energy"
  obtain ⟨hnonneg, hmono, hcase, hothers, hinsert', hexact⟩ :=
    damageLeft_follows_resistances shielded "energy"
  have hrange : (Score.magnitude (flatValues shielded.resistances "energy") : Int) ≤
      Score.greatest.toInt := by decide +kernel
  have hpadding := (hinsert [padding] [carapace] rfl padding 21).1 (by decide +kernel)
  have hfield := (hinsert' [padding, refractorField, carapace] [] rfl refractorField 21).2.1 rfl
    (by decide +kernel)
  have hcarapace := (hinsert [padding, carapace] [] rfl carapace 21).2.2.1 (by decide +kernel) rfl
  have hpatch := (hinsert [padding] [carapace] rfl scorchedPatch 21).2.2.1 (by decide +kernel) rfl
  have hhalf := (hinsert [padding] [carapace] rfl refractorField 21).2.2.2 (by decide +kernel) rfl
    (by decide)
  exact ⟨⟨hnonneg _, hmono _ _ (by decide)⟩,
    ⟨hcase _ (by decide +kernel) _, hothers _ (by decide +kernel) _⟩,
    ⟨hpadding, hfield, hcarapace.1 (by decide), hpatch.2 (by decide), hhalf⟩,
    hrange, (hexact hrange 21).trans (by decide +kernel)⟩

end Synthetics

end Percentile
