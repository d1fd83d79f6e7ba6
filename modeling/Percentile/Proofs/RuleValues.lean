import Percentile.Proofs.Numeral
import Percentile.Proofs.Records
import Percentile.Rule.Value

/-!
# The language of rule values

Content says a rule value with a number, a word or a text. This file gives the language in which it
does so and shows that the reader takes this language and nothing else.

**Language** (`RuleValue.Denotes`). A whole number in the range of a score stands for itself, and so
does a text with a numeral between blanks, if its value lies in that range. The string `rating`
stands for the rating, and there no blanks are allowed.

**Reading** (`RuleValue.readValue_eq_ok_iff`, `RuleValue.readValue_of_not_denotes`). A JSON value is
read as what it denotes, and refused if it denotes nothing. A numeral out of range is refused too:
its value is compared with the range as an integer, so it never turns into another number. The draft
of a text is read as its value is (`RuleValue.read_eq`).

**Decimals** (`Score.decimal`). A score in decimal is a numeral for it, and the text of the score is
the plainest of these.

**Theorem (`RuleValue.reads_its_language`).** Reading and refusing, writing, and decimals.
-/

namespace Percentile

open Reader Text

namespace RuleValue

/-- What a JSON value says as a rule value. -/
inductive Denotes : Json → RuleValue → Prop
  | number (n : Score) : Denotes (.number (.whole n.toInt)) (.literal n)
  | word : Denotes (.string "rating") .rating
  | text {text : String} {front core back : List Char} {n : Score}
      (htext : text.toList = front ++ core ++ back) (hfront : Blank front) (hback : Blank back)
      (hcore : Numeral core n.toInt) : Denotes (.string text) (.literal n)

variable {text : String} {front core back : List Char} {n : Int} {j : Json} {v : RuleValue}

/-! ## Texts -/

/-- The word is no numeral. -/
theorem integer?_word : integer? (trim "rating".toList) = none := by decide +kernel

theorem ofText?_word : ofText? "rating" = some .rating := rfl

theorem ofText?_of_ne (h : text ≠ "rating") :
    ofText? text =
      (integer? (trim text.toList)).bind fun n => (Score.ofInt? n).map .literal := by
  unfold ofText?
  rw [if_neg h]

theorem ne_word_of_integer? (h : integer? (trim text.toList) = some n) : text ≠ "rating" := by
  rintro rfl
  rw [integer?_word] at h
  exact absurd h nofun

/-- **A text is the word or a numeral between blanks**, and nothing else. -/
theorem ofText?_eq_some_iff : ofText? text = some v ↔ Denotes (.string text) v := by
  constructor
  · intro h
    by_cases hword : text = "rating"
    · subst hword
      cases h
      exact .word
    · rw [ofText?_of_ne hword] at h
      obtain ⟨n, hn, h⟩ := Option.bind_eq_some_iff.1 h
      obtain ⟨a, ha, rfl⟩ := Option.map_eq_some_iff.1 h
      obtain ⟨front, core, back, htext, hfront, hback, hcore⟩ := integer?_trim_eq_some_iff.1 hn
      rw [← Score.ofInt?_eq_some_iff.1 ha] at hcore
      exact .text htext hfront hback hcore
  · intro h
    cases h with
    | word => exact ofText?_word
    | text htext hfront hback hcore =>
      have hn := integer?_trim_eq_some_iff.2 ⟨_, _, _, htext, hfront, hback, hcore⟩
      rw [ofText?_of_ne (ne_word_of_integer? hn), hn, Option.bind_some,
        Score.ofInt?_eq_some_iff.2 rfl]
      rfl

/-! ## Reading -/

/-- The rule value of a JSON value, by a look at its shape. -/
def ofJson? : Json → Option RuleValue
  | .string text => ofText? text
  | j => j.score?.map .literal

/-- **A JSON value says a rule value** if a look at its shape finds one. -/
theorem ofJson?_eq_some_iff : ofJson? j = some v ↔ Denotes j v := by
  constructor
  · intro h
    unfold ofJson? at h
    split at h
    · exact ofText?_eq_some_iff.1 h
    · obtain ⟨n, hn, rfl⟩ := Option.map_eq_some_iff.1 h
      rw [Json.score?_eq_some_iff.1 hn]
      exact .number n
  · intro h
    cases h with
    | number n => exact Option.map_eq_some_iff.2 ⟨n, Json.score?_score n, rfl⟩
    | word => exact ofText?_word
    | text htext hfront hback hcore =>
      exact ofText?_eq_some_iff.2 (.text htext hfront hback hcore)

/-- Why a JSON value is refused: it is no wording, or a text for what it says. -/
def refusal (j : Json) : ReadError := j.string?.elim (.unmatched "RawValue") .notRuleValue

/-- The wording of a JSON value. -/
def Wording.ofJson? (j : Json) : Option Wording :=
  (j.score?.map .number).or (j.string?.map .text)

theorem Wording.read_eq (d : Draft) :
    Wording.read d = any d >>= fun j => (ofJson? j).elim (.error (.unmatched "RawValue")) .ok := by
  apply firstOf_eq
  intro j hany
  simp only [List.findSome?, toOption_map, toOption_score_of_any hany, toOption_text_of_any hany]
  unfold ofJson?
  cases j.score? with
  | some n => rfl
  | none => cases j.string? <;> rfl

/-- The value of a wording is that of the JSON value so worded. -/
theorem ofWording_ofJson? (j : Json) :
    (Wording.ofJson? j).elim (.error (.unmatched "RawValue")) ofWording =
      (ofJson? j).elim (.error (refusal j)) .ok := by
  cases j with
  | string text =>
    show ofWording (.text text) = _
    simp only [ofWording, ofJson?]
    cases ofText? text <;> rfl
  | number n =>
    simp only [Wording.ofJson?, ofJson?]
    cases (Json.number n).score? <;> rfl
  | null | bool _ | array _ | object _ => rfl

/-- **A draft is read** by a look at the shape of its value. -/
theorem read_eq (d : Draft) :
    read d = any d >>= fun j => (ofJson? j).elim (.error (refusal j)) .ok := by
  unfold read
  rw [Wording.read_eq]
  cases any d with
  | error e => rfl
  | ok j =>
    show Option.elim _ _ _ >>= ofWording = Option.elim _ _ _
    rw [← ofWording_ofJson?]
    cases Wording.ofJson? j <;> rfl

theorem readValue_eq (j : Json) :
    read.readValue j = (ofJson? j).elim (.error (refusal j)) .ok := by
  rw [readValue, read_eq, any_ofValue]
  rfl

/-- **What a JSON value is read as** is what it denotes. -/
theorem readValue_eq_ok_iff : read.readValue j = .ok v ↔ Denotes j v := by
  rw [readValue_eq, ← ofJson?_eq_some_iff]
  cases ofJson? j <;> simp

/-- The language is unambiguous. -/
theorem Denotes.unique {w : RuleValue} (hv : Denotes j v) (hw : Denotes j w) : v = w := by
  rw [← readValue_eq_ok_iff] at hv hw
  exact Except.ok.inj (hv.symm.trans hw)

/-- **What denotes nothing is refused.** -/
theorem readValue_of_not_denotes (h : ∀ v, ¬ Denotes j v) :
    read.readValue j = .error (refusal j) := by
  have hnone : ofJson? j = none := by
    rw [Option.eq_none_iff_forall_ne_some]
    exact fun v hv => h v (ofJson?_eq_some_iff.1 hv)
  rw [readValue_eq, hnone]
  rfl

/-- **A numeral out of range is refused**, with blanks or without. -/
theorem readValue_of_out_of_range (htext : text.toList = front ++ core ++ back)
    (hfront : Blank front) (hback : Blank back) (hcore : Numeral core n)
    (hrange : n < Score.least.toInt ∨ Score.greatest.toInt < n) :
    read.readValue (.string text) = .error (.notRuleValue text) := by
  have hn := integer?_trim_eq_some_iff.2 ⟨front, core, back, htext, hfront, hback, hcore⟩
  have hscore : Score.ofInt? n = none := by
    rw [Option.eq_none_iff_forall_ne_some]
    intro a ha
    rw [← Score.ofInt?_eq_some_iff.1 ha] at hrange
    rcases hrange with h | h
    · exact absurd a.least_le (Int.not_le.2 h)
    · exact absurd a.le_greatest (Int.not_le.2 h)
  have hnone : ofText? text = none := by
    rw [ofText?_of_ne (ne_word_of_integer? hn), hn, Option.bind_some, hscore]
    rfl
  rw [readValue_eq, ofJson?, hnone]
  rfl

/-! ## Writing -/

theorem readValue_toJson (v : RuleValue) : read.readValue v.toJson = .ok v := by
  rw [readValue_eq_ok_iff]
  cases v with
  | literal n => exact .number n
  | rating => exact .word

end RuleValue

namespace Score

/-- The score in decimal: its sign, where a plus may stand or not, some zeros, and its digits. -/
def decimal (n : Score) (plus : Bool) (zeros : Nat) : List Char :=
  (if n < 0 then ['-'] else if plus then ['+'] else []) ++
    (List.replicate zeros '0' ++ Nat.toDigits 10 n.toInt.natAbs)

theorem decimal_of_neg {n : Score} (h : n < 0) (plus : Bool) (zeros : Nat) :
    n.decimal plus zeros =
      '-' :: (List.replicate zeros '0' ++ Nat.toDigits 10 n.toInt.natAbs) := by
  rw [decimal, if_pos h]
  rfl

theorem decimal_of_nonneg {n : Score} (h : ¬ n < 0) (plus : Bool) (zeros : Nat) :
    n.decimal plus zeros =
      (if plus then ['+'] else []) ++
        (List.replicate zeros '0' ++ Nat.toDigits 10 n.toInt.natAbs) := by
  rw [decimal, if_neg h]

theorem numeral_decimal (n : Score) (plus : Bool) (zeros : Nat) :
    Numeral (n.decimal plus zeros) n.toInt := by
  have hdigits := digits_toDigits zeros n.toInt.natAbs
  by_cases hneg : n < 0
  · have hminus := Numeral.minus hdigits
    have habs : -(n.toInt.natAbs : Int) = n.toInt := by
      rw [lt_iff, toInt_zero] at hneg
      omega
    rw [decimal_of_neg hneg]
    rwa [habs] at hminus
  · have habs : (n.toInt.natAbs : Int) = n.toInt := by
      rw [lt_iff, toInt_zero] at hneg
      omega
    rw [decimal_of_nonneg hneg]
    cases plus with
    | false =>
      have hunsigned := Numeral.unsigned hdigits
      rwa [habs] at hunsigned
    | true =>
      have hplus := Numeral.plus hdigits
      rwa [habs] at hplus

/-- Without plus and zeros this is the text of the score. -/
theorem ofList_decimal (n : Score) : String.ofList (n.decimal false 0) = toString n := by
  show _ = Int.repr n.toInt
  by_cases hneg : n < 0
  · rw [decimal_of_neg hneg]
    rw [lt_iff, toInt_zero] at hneg
    obtain ⟨m, hm⟩ := Int.eq_negSucc_of_lt_zero hneg
    rw [hm]
    show String.ofList (['-'] ++ Nat.toDigits 10 (m + 1)) = "-" ++ Nat.repr (m + 1)
    rw [String.ofList_append]
    rfl
  · rw [decimal_of_nonneg hneg]
    rw [lt_iff, toInt_zero] at hneg
    obtain ⟨m, hm⟩ := Int.eq_ofNat_of_zero_le (Int.not_lt.1 hneg)
    rw [hm]
    rfl

end Score

namespace RuleValue

/-- **The decimal text of a score** is read as the score, between any blanks. -/
theorem readValue_decimal (n : Score) (plus : Bool) (zeros : Nat) (hfront : Blank front)
    (hback : Blank back) :
    read.readValue (.string (String.ofList (front ++ n.decimal plus zeros ++ back))) =
      .ok (.literal n) := by
  rw [readValue_eq_ok_iff]
  exact .text String.toList_ofList hfront hback (n.numeral_decimal plus zeros)

/-- **The reader takes the language of rule values and nothing else.** A JSON value is read as what
it denotes, and refused if it denotes nothing. A numeral out of range is refused with its text. What
is written is read again. The text of a score is the score in decimal, and that is read as the score
also with blanks around it, zeros before it and a plus where there is no minus. -/
theorem reads_its_language :
    (∀ (j : Json) (v : RuleValue), read.readValue j = .ok v ↔ Denotes j v) ∧
    (∀ j : Json, (∀ v, ¬ Denotes j v) → read.readValue j = .error (refusal j)) ∧
    (∀ (text : String) (front core back : List Char) (n : Int),
      text.toList = front ++ core ++ back → Blank front → Blank back → Numeral core n →
      n < Score.least.toInt ∨ Score.greatest.toInt < n →
      read.readValue (.string text) = .error (.notRuleValue text)) ∧
    (∀ v : RuleValue, read.readValue v.toJson = .ok v) ∧
    (∀ n : Score, String.ofList (n.decimal false 0) = toString n) ∧
    ∀ (n : Score) (plus : Bool) (zeros : Nat) (front back : List Char), Blank front → Blank back →
      read.readValue (.string (String.ofList (front ++ n.decimal plus zeros ++ back))) =
        .ok (.literal n) :=
  ⟨fun _ _ => readValue_eq_ok_iff, fun _ => readValue_of_not_denotes,
    fun _ _ _ _ _ => readValue_of_out_of_range, readValue_toJson, Score.ofList_decimal,
    fun n plus zeros _ _ => readValue_decimal n plus zeros⟩

/-- The least score is read, with a zero before it and blanks around it, and one above the greatest
score is not. Behind a blank the word says nothing. -/
theorem reads_its_language_ends :
    read.readValue (.string "\t-09223372036854775808 ") = .ok (.literal .least) ∧
    read.readValue (.string " +9223372036854775808") =
      .error (.notRuleValue " +9223372036854775808") ∧
    ∀ v, ¬ Denotes (.string " rating") v := by
  obtain ⟨hread, -, hrange, -, -, hdecimal⟩ := reads_its_language
  refine ⟨?_, ?_, fun v hv => ?_⟩
  · exact hdecimal .least false 1 ['\t'] [' '] (by decide) (by decide)
  · have hcore : Numeral ('+' :: Nat.toDigits 10 9223372036854775808) 9223372036854775808 :=
      .plus (digits_toDigits 0 9223372036854775808)
    exact hrange _ [' '] _ [] _ (by decide +kernel) (by decide) (by decide) hcore (.inr (by decide))
  · have hword : read.readValue (.string " rating") = .error (.notRuleValue " rating") := by
      decide +kernel
    rw [← hread, hword] at hv
    exact absurd hv nofun

end RuleValue

end Percentile
