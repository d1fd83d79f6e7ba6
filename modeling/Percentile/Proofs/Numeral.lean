import Mathlib.Data.List.TakeWhile
import Percentile.Text.Blank
import Percentile.Text.Numeral

/-!
# The numerals in a text

A text is searched for a numeral by taking the blanks off its two ends and then reading it digit by
digit. This file says what that finds.

**Numerals** (`Text.Numeral`) are given by their form: a sign or none, and then one or more digits.
Their value is that of the digits in the decimal system. Reading digit by digit gives a number
exactly if the text is a numeral, and then its value (`Text.integer?_eq_some_iff`).

**Blanks.** No character of a numeral is blank, so the numeral in a text is what stands between the
blanks at its two ends, and there is none if anything else stands there
(`Text.integer?_trim_eq_some_iff`).
-/

namespace Percentile.Text

variable {cs front core back : List Char} {acc m : Nat} {n : Int} {c : Char}

/-! ## Numerals -/

/-- One or more digits, with the number that they write. -/
def Digits (cs : List Char) (m : Nat) : Prop :=
  cs ≠ [] ∧ (∀ c ∈ cs, c.isDigit = true) ∧ Nat.ofDigitChars 10 cs 0 = m

/-- A numeral, with its value. -/
inductive Numeral : List Char → Int → Prop
  | unsigned {cs : List Char} {m : Nat} (h : Digits cs m) : Numeral cs m
  | plus {cs : List Char} {m : Nat} (h : Digits cs m) : Numeral ('+' :: cs) m
  | minus {cs : List Char} {m : Nat} (h : Digits cs m) : Numeral ('-' :: cs) (-m)

theorem digitsFrom_eq_some_iff :
    digitsFrom acc cs = some m ↔
      (∀ c ∈ cs, c.isDigit = true) ∧ Nat.ofDigitChars 10 cs acc = m := by
  induction cs generalizing acc with
  | nil => simp [digitsFrom]
  | cons c rest ih =>
    by_cases hdigit : c.isDigit = true
    · have hvalue : acc * 10 + (c.toNat - 48) = 10 * acc + (c.toNat - '0'.toNat) := by
        rw [Nat.mul_comm]
        rfl
      simp [digitsFrom, digit?, hdigit, ih, Nat.ofDigitChars_cons, hvalue]
    · simp [digitsFrom, digit?, hdigit]

theorem natural?_eq_some_iff : natural? cs = some m ↔ Digits cs m := by
  unfold natural? Digits
  split
  · simp
  · rename_i hne
    rw [digitsFrom_eq_some_iff, iff_and_self]
    exact fun _ => hne

/-- A digit is no sign. -/
theorem Digits.integer?_eq (h : Digits cs m) : integer? cs = some (m : Int) := by
  obtain ⟨c, rest, rfl⟩ := List.exists_cons_of_ne_nil h.1
  have hdigit := h.2.1 c List.mem_cons_self
  unfold integer?
  split
  · rename_i heq
    cases heq
    exact absurd hdigit (by decide)
  · rename_i heq
    cases heq
    exact absurd hdigit (by decide)
  · rw [natural?_eq_some_iff.2 h]
    rfl

/-- **Reading digit by digit** gives a number for numerals alone, and their value. -/
theorem integer?_eq_some_iff : integer? cs = some n ↔ Numeral cs n := by
  constructor
  · intro h
    unfold integer? at h
    split at h
    · obtain ⟨m, hm, rfl⟩ := Option.map_eq_some_iff.1 h
      exact .plus (natural?_eq_some_iff.1 hm)
    · obtain ⟨m, hm, rfl⟩ := Option.map_eq_some_iff.1 h
      exact .minus (natural?_eq_some_iff.1 hm)
    · obtain ⟨m, hm, rfl⟩ := Option.map_eq_some_iff.1 h
      exact .unsigned (natural?_eq_some_iff.1 hm)
  · intro h
    cases h with
    | unsigned h => exact h.integer?_eq
    | plus h => exact Option.map_eq_some_iff.2 ⟨_, natural?_eq_some_iff.2 h, rfl⟩
    | minus h => exact Option.map_eq_some_iff.2 ⟨_, natural?_eq_some_iff.2 h, rfl⟩

/-- The decimal digits of a number write it, also behind zeros. -/
theorem digits_toDigits (zeros m : Nat) :
    Digits (List.replicate zeros '0' ++ Nat.toDigits 10 m) m := by
  refine ⟨?_, ?_, ?_⟩
  · simp [Nat.toDigits_ne_nil]
  · intro c hc
    rcases List.mem_append.1 hc with hc | hc
    · rw [(List.mem_replicate.1 hc).2]
      rfl
    · exact Nat.isDigit_of_mem_toDigits (by decide) (by decide) hc
  · rw [Nat.ofDigitChars_append, Nat.ofDigitChars_replicate_zero, Nat.mul_zero,
      Nat.ofDigitChars_ten_toDigits]

/-! ## Blanks -/

/-- All characters are blank. -/
def Blank (cs : List Char) : Prop := ∀ c ∈ cs, isBlank c = true

instance : Decidable (Blank cs) := decidable_of_iff (cs.all isBlank = true) List.all_eq_true

/-- What stands between blanks, and has none itself, is left when the blanks are taken off. -/
theorem trim_between (hfront : Blank front) (hback : Blank back) (hne : core ≠ [])
    (hcore : ∀ c ∈ core, isBlank c = false) : trim (front ++ core ++ back) = core := by
  have hstop : ∀ cs rest : List Char, cs ≠ [] → (∀ c ∈ cs, isBlank c = false) →
      (cs ++ rest).dropWhile isBlank = cs ++ rest := by
    intro cs rest hne hcs
    obtain ⟨c, cs, rfl⟩ := List.exists_cons_of_ne_nil hne
    rw [List.cons_append, List.dropWhile_cons_of_neg (by simp [hcs c List.mem_cons_self])]
  unfold trim
  rw [List.append_assoc, List.dropWhile_append_of_pos hfront, hstop core back hne hcore,
    List.reverse_append, List.dropWhile_append_of_pos (by simpa [Blank] using hback)]
  have hreverse := hstop core.reverse [] (by simpa using hne) (by simpa using hcore)
  rw [List.append_nil] at hreverse
  rw [hreverse, List.reverse_reverse]

theorem exists_trim (cs : List Char) :
    ∃ front back, cs = front ++ trim cs ++ back ∧ Blank front ∧ Blank back := by
  refine ⟨cs.takeWhile isBlank, ((cs.dropWhile isBlank).reverse.takeWhile isBlank).reverse, ?_,
    fun c hc => List.mem_takeWhile_imp hc, fun c hc => ?_⟩
  · unfold trim
    rw [List.append_assoc, ← List.reverse_append, List.takeWhile_append_dropWhile,
      List.reverse_reverse, List.takeWhile_append_dropWhile]
  · exact List.mem_takeWhile_imp (List.mem_reverse.1 hc)

theorem isBlank_of_isDigit (h : c.isDigit = true) : isBlank c = false := by
  have hrange : 48 ≤ c.toNat ∧ c.toNat ≤ 57 := by
    simpa [Char.isDigit, UInt32.le_iff_toNat_le] using h
  simp only [isBlank, Bool.or_eq_false_iff, Bool.and_eq_false_iff, decide_eq_false_iff_not,
    beq_eq_false_iff_ne]
  omega

theorem Digits.not_blank (h : Digits cs m) : ∀ c ∈ cs, isBlank c = false :=
  fun c hc => isBlank_of_isDigit (h.2.1 c hc)

theorem Numeral.not_blank (h : Numeral cs n) : cs ≠ [] ∧ ∀ c ∈ cs, isBlank c = false := by
  cases h with
  | unsigned h => exact ⟨h.1, h.not_blank⟩
  | plus h => exact ⟨List.cons_ne_nil _ _, List.forall_mem_cons.2 ⟨rfl, h.not_blank⟩⟩
  | minus h => exact ⟨List.cons_ne_nil _ _, List.forall_mem_cons.2 ⟨rfl, h.not_blank⟩⟩

/-- **The numeral in a text** is what stands between the blanks at its ends. -/
theorem integer?_trim_eq_some_iff :
    integer? (trim cs) = some n ↔
      ∃ front core back, cs = front ++ core ++ back ∧ Blank front ∧ Blank back ∧
        Numeral core n := by
  rw [integer?_eq_some_iff]
  constructor
  · intro h
    obtain ⟨front, back, hcs, hfront, hback⟩ := exists_trim cs
    exact ⟨front, trim cs, back, hcs, hfront, hback, h⟩
  · rintro ⟨front, core, back, rfl, hfront, hback, h⟩
    obtain ⟨hne, hcore⟩ := h.not_blank
    rwa [trim_between hfront hback hne hcore]

end Percentile.Text
