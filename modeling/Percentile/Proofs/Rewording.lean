import Mathlib.Data.Finset.Image
import Percentile.Proofs.Condition

/-!
# Rewording a condition

Authors write one condition in many ways. This file says which rewordings change no verdict. The
connectives are not those of logic alone, because a malformed part, however deep and under whatever
denials, makes a condition fail.

**Verdicts** (`Statement.verdict?`). A statement with a malformed part has no verdict, and then what
is built from it has none either. Otherwise its verdict is whether it holds. So the verdict of an
operator depends on those of its operands alone, and not on their order or number
(`verdict?_all`, `verdict?_any`, `verdict?_not`), and the laws of logic survive.

**Rewriting** (`Json.Rewrites`). A rule that relates values that come to the same, both as a
statement and as a list of operands, may be applied anywhere in a condition (`Rewrites.alike`).

**Theorem (`test_rewordings`).** The rewordings that keep the verdict of a condition.
-/

namespace Percentile

/-! ## Verdicts -/

namespace Statement

variable {options : RollOptions} {s : Statement} {items : List Statement}

/-- What a statement comes to: nothing if one of its parts is malformed, and otherwise whether it
holds. -/
def verdict? (options : RollOptions) (s : Statement) : Option Bool :=
  if s.wellFormed then some (s.holds options) else none

/-- What statements come to, without their order and number. -/
def verdicts (options : RollOptions) (items : List Statement) : Finset (Option Bool) :=
  (items.map (verdict? options)).toFinset

/-- What a conjunction comes to. -/
def conjunction? (verdicts : Finset (Option Bool)) : Option Bool :=
  if none ∈ verdicts then none else some (decide (some false ∉ verdicts))

/-- What a disjunction comes to. -/
def disjunction? (verdicts : Finset (Option Bool)) : Option Bool :=
  if none ∈ verdicts then none else some (decide (some true ∈ verdicts))

theorem verdict?_of_wellFormed (h : s.wellFormed = true) :
    s.verdict? options = some (s.holds options) := if_pos h

theorem verdict?_eq_none_iff : s.verdict? options = none ↔ s.wellFormed = false := by
  unfold verdict?
  cases s.wellFormed <;> simp

theorem mem_verdicts {v : Option Bool} :
    v ∈ verdicts options items ↔ ∃ s ∈ items, s.verdict? options = v := by
  rw [verdicts, List.mem_toFinset, List.mem_map]

theorem none_mem_verdicts : none ∈ verdicts options items ↔ items.all wellFormed = false := by
  simp [mem_verdicts, verdict?_eq_none_iff]

theorem some_mem_verdicts (h : items.all wellFormed = true) {b : Bool} :
    some b ∈ verdicts options items ↔ ∃ s ∈ items, s.holds options = b := by
  rw [mem_verdicts]
  refine exists_congr fun s => and_congr_right fun hs => ?_
  rw [verdict?_of_wellFormed (List.all_eq_true.1 h s hs), Option.some.injEq]

theorem verdict?_not : (not s).verdict? options = (s.verdict? options).map Bool.not := by
  unfold verdict?
  rw [wellFormed, holds]
  cases s.wellFormed <;> rfl

theorem verdict?_all : (all items).verdict? options = conjunction? (verdicts options items) := by
  rw [verdict?, conjunction?, wellFormed, holds, allWellFormed_eq_all, allHold_eq_all]
  simp only [none_mem_verdicts]
  cases hformed : items.all wellFormed with
  | false => rfl
  | true =>
    simp only [Bool.true_eq_false, if_true, if_false, Option.some.injEq]
    rw [Bool.eq_iff_iff]
    simp [some_mem_verdicts hformed]

theorem verdict?_any : (any items).verdict? options = disjunction? (verdicts options items) := by
  rw [verdict?, disjunction?, wellFormed, holds, allWellFormed_eq_all, anyHolds_eq_any]
  simp only [none_mem_verdicts]
  cases hformed : items.all wellFormed with
  | false => rfl
  | true =>
    simp only [Bool.true_eq_false, if_true, if_false, Option.some.injEq]
    rw [Bool.eq_iff_iff]
    simp [some_mem_verdicts hformed]

/-! ## Laws of logic -/

theorem verdict?_not_not : (not (not s)).verdict? options = s.verdict? options := by
  rw [verdict?_not, verdict?_not]
  cases s.verdict? options with
  | none => rfl
  | some b => rw [Option.map_some, Option.map_some, Bool.not_not]

theorem verdicts_map_not :
    verdicts options (items.map not) = (verdicts options items).image (Option.map Bool.not) := by
  ext v
  simp [mem_verdicts, verdict?_not]

/-- A denied conjunction is the disjunction of the denials. -/
theorem verdict?_not_all :
    (not (all items)).verdict? options = (any (items.map not)).verdict? options := by
  rw [verdict?_not, verdict?_all, verdict?_any, verdicts_map_not, conjunction?, disjunction?]
  by_cases hnone : none ∈ verdicts options items
  · simp [hnone]
  · simp [hnone]

/-- A denied disjunction is the conjunction of the denials. -/
theorem verdict?_not_any :
    (not (any items)).verdict? options = (all (items.map not)).verdict? options := by
  rw [verdict?_not, verdict?_any, verdict?_all, verdicts_map_not, disjunction?, conjunction?]
  by_cases hnone : none ∈ verdicts options items
  · simp [hnone]
  · simp [hnone]

/-- A denial in front of a tag is one of the statement of the tag, unless that is a denial too. -/
theorem verdict?_ofText_denied {tag : String} (h : ∀ rest, tag ≠ "not:" ++ rest) :
    (ofText ("not:" ++ tag)).verdict? options = (not (ofText tag)).verdict? options := by
  have hdenied : denied? ("not:" ++ tag) = some tag := denied?_eq_some_iff.2 rfl
  have hplain : denied? tag = none := by
    rw [Option.eq_none_iff_forall_ne_some]
    exact fun rest hrest => h rest (denied?_eq_some_iff.1 hrest)
  rw [ofText, ofText, hdenied, hplain]
  rfl

end Statement

/-! ## Rewriting -/

namespace Json

open Statement

/-- Parts of a value are replaced by a rule, at any depth and any number of times. -/
inductive Rewrites (rule : Json → Json → Prop) : Json → Json → Prop
  | rule {j j' : Json} (h : rule j j') : Rewrites rule j j'
  | item (front back : List Json) {j j' : Json} (h : Rewrites rule j j') :
      Rewrites rule (.array (front ++ j :: back)) (.array (front ++ j' :: back))
  | entry (front back : List (String × Json)) (key : String) {j j' : Json}
      (h : Rewrites rule j j') :
      Rewrites rule (.object (front ++ (key, j) :: back)) (.object (front ++ (key, j') :: back))
  | refl (j : Json) : Rewrites rule j j
  | trans {j k l : Json} (hjk : Rewrites rule j k) (hkl : Rewrites rule k l) : Rewrites rule j l

/-- Two arrays have the same items, in any order and each any number of times. -/
inductive Regroups : Json → Json → Prop
  | intro {items items' : List Json} (h : ∀ j, j ∈ items ↔ j ∈ items') :
      Regroups (.array items) (.array items')

/-- A denial in front of a tag is spelled out as an operator. -/
inductive SpellsOut : Json → Json → Prop
  | intro {tag : String} (h : ∀ rest, tag ≠ "not:" ++ rest) :
      SpellsOut (.string ("not:" ++ tag)) (.object [("not", .string tag)])

variable {options : RollOptions} {j j' k : Json}

/-- What the items of an array come to. Other values have no items. -/
def itemVerdicts? (options : RollOptions) : Json → Option (Finset (Option Bool))
  | .array items => some (verdicts options (ofItems items))
  | _ => none

theorem verdict?_ofJson_and (j : Json) : (ofJson (.object [("and", j)])).verdict? options =
    (j.itemVerdicts? options).bind conjunction? := by
  cases j with
  | array items =>
    rw [ofJson, verdict?_all]
    rfl
  | null | bool _ | number _ | string _ | object _ =>
    simp [ofJson, itemVerdicts?, verdict?, wellFormed]

theorem verdict?_ofJson_or (j : Json) : (ofJson (.object [("or", j)])).verdict? options =
    (j.itemVerdicts? options).bind disjunction? := by
  cases j with
  | array items =>
    rw [ofJson, verdict?_any]
    rfl
  | null | bool _ | number _ | string _ | object _ =>
    simp [ofJson, itemVerdicts?, verdict?, wellFormed]

/-- An object that is no operator is malformed. -/
theorem verdict?_ofJson_object {fields : List (String × Json)}
    (h : ∀ key j, fields = [(key, j)] → key ∉ ["and", "or", "not"]) :
    (ofJson (.object fields)).verdict? options = none := by
  have hmalformed : ofJson (.object fields) = .malformed (.object fields) := by
    apply ofJson.eq_5
    · intro text heq
      cases heq
    · intro items heq
      exact h _ _ (object.inj heq) (by simp)
    · intro items heq
      exact h _ _ (object.inj heq) (by simp)
    · intro inner heq
      exact h _ _ (object.inj heq) (by simp)
  rw [hmalformed]
  rfl

/-- Two values come to the same, as statements and as lists of operands. -/
def Alike (options : RollOptions) (j j' : Json) : Prop :=
  (ofJson j).verdict? options = (ofJson j').verdict? options ∧
    j.itemVerdicts? options = j'.itemVerdicts? options

theorem Alike.trans (h : Alike options j j') (h' : Alike options j' k) : Alike options j k :=
  ⟨h.1.trans h'.1, h.2.trans h'.2⟩

theorem Alike.item (h : Alike options j j') (front back : List Json) :
    Alike options (.array (front ++ j :: back)) (.array (front ++ j' :: back)) := by
  refine ⟨by simp [ofJson, verdict?, wellFormed], ?_⟩
  simp only [itemVerdicts?, ofItems_eq_map, verdicts, List.map_append, List.map_cons, h.1]

theorem Alike.entry (h : Alike options j j') (front back : List (String × Json)) (key : String) :
    Alike options (.object (front ++ (key, j) :: back)) (.object (front ++ (key, j') :: back)) := by
  refine ⟨?_, rfl⟩
  by_cases hoperator : front = [] ∧ back = [] ∧ key ∈ ["and", "or", "not"]
  · obtain ⟨rfl, rfl, hkey⟩ := hoperator
    simp only [List.mem_cons, List.not_mem_nil, or_false] at hkey
    rw [List.nil_append, List.nil_append]
    rcases hkey with rfl | rfl | rfl
    · rw [verdict?_ofJson_and, verdict?_ofJson_and, h.2]
    · rw [verdict?_ofJson_or, verdict?_ofJson_or, h.2]
    · rw [ofJson, ofJson, verdict?_not, verdict?_not, h.1]
  · have hnone : ∀ k, (ofJson (.object (front ++ (key, k) :: back))).verdict? options = none := by
      intro k
      apply verdict?_ofJson_object
      intro key' k' heq hkey
      rcases List.append_eq_singleton_iff.1 heq with ⟨hfront, hrest⟩ | ⟨-, hrest⟩
      · simp only [List.cons.injEq, Prod.mk.injEq] at hrest
        obtain ⟨⟨rfl, -⟩, hback⟩ := hrest
        exact hoperator ⟨hfront, hback, hkey⟩
      · exact absurd hrest (List.cons_ne_nil _ _)
    rw [hnone, hnone]

/-- **A rule that relates alike values makes alike values wherever it is applied.** -/
theorem Rewrites.alike {rule : Json → Json → Prop} (h : Rewrites rule j j')
    (hrule : ∀ j j', rule j j' → Alike options j j') : Alike options j j' := by
  induction h with
  | rule h => exact hrule _ _ h
  | item front back _ ih => exact ih.item front back
  | entry front back key _ ih => exact ih.entry front back key
  | refl j => exact ⟨rfl, rfl⟩
  | trans _ _ ih ih' => exact ih.trans ih'

theorem Regroups.alike (h : Regroups j j') : Alike options j j' := by
  obtain ⟨h⟩ := h
  refine ⟨by simp [ofJson, verdict?, wellFormed], ?_⟩
  rw [itemVerdicts?, itemVerdicts?, Option.some.injEq]
  ext v
  simp only [mem_verdicts, ofItems_eq_map, List.mem_map, h]

theorem SpellsOut.alike (h : SpellsOut j j') : Alike options j j' := by
  obtain ⟨h⟩ := h
  refine ⟨?_, rfl⟩
  rw [ofJson, ofJson, ofJson, verdict?_ofText_denied h]

end Json

/-! ## Predicates -/

namespace Predicate

open Statement (verdict? verdict?_all verdict?_not_not verdict?_not_all verdict?_not_any
  ofItems_eq_map)
open Json (Rewrites Regroups SpellsOut Alike)

variable {options : RollOptions}

/-- A predicate passes if the conjunction of its statements has a verdict and holds. -/
theorem test_eq_verdict (statements : List Statement) (options : RollOptions) :
    test ⟨statements⟩ options = ((Statement.all statements).verdict? options).getD false := by
  rw [test, verdict?, Statement.wellFormed, Statement.holds, Statement.allWellFormed_eq_all,
    Statement.allHold_eq_all]
  cases statements.all Statement.wellFormed <;> rfl

theorem test_singleton (s : Statement) (options : RollOptions) :
    test ⟨[s]⟩ options = (s.verdict? options).getD false := by
  simp only [test, verdict?, List.all_cons, List.all_nil, Bool.and_true]
  cases s.wellFormed <;> rfl

theorem test_append (p q : List Statement) (options : RollOptions) :
    test ⟨p ++ q⟩ options = (test ⟨p⟩ options && test ⟨q⟩ options) := by
  simp only [test, List.all_append]
  ac_rfl

theorem test_of_alike {xs ys : List Json} (h : Alike options (.array xs) (.array ys)) :
    (ofJson (.array xs)).test options = (ofJson (.array ys)).test options := by
  have hverdicts := Option.some.inj h.2
  rw [ofItems_eq_map, ofItems_eq_map] at hverdicts
  rw [ofJson, ofJson, test_eq_verdict, test_eq_verdict, verdict?_all, verdict?_all, hverdicts]

/-- **Rewordings of a condition**, whether or not parts of it are malformed. A list of statements
passes if its halves do. Statements may change places, be repeated, and lose repetitions, on top and
in any list of operands. The operator `and` may be left out on top, and so may a double denial. A
denial of `and` is an `or` of denials, and the other way round. The denial in front of a tag may be
spelled out as an operator anywhere, unless the tag starts with a further one. -/
theorem test_rewordings (options : RollOptions) :
    let passes (items : List Json) : Bool := (ofJson? (some (.array items))).test options
    (∀ xs ys, passes (xs ++ ys) = (passes xs && passes ys)) ∧
    (∀ xs ys, Rewrites Regroups (.array xs) (.array ys) → passes xs = passes ys) ∧
    (∀ xs, passes [.object [("and", .array xs)]] = passes xs) ∧
    (∀ x, passes [.object [("not", .object [("not", x)])]] = passes [x]) ∧
    (∀ xs, passes [.object [("not", .object [("and", .array xs)])]] =
      passes [.object [("or", .array (xs.map fun x => .object [("not", x)]))]]) ∧
    (∀ xs, passes [.object [("not", .object [("or", .array xs)])]] =
      passes [.object [("and", .array (xs.map fun x => .object [("not", x)]))]]) ∧
    ∀ xs ys, Rewrites SpellsOut (.array xs) (.array ys) → passes xs = passes ys := by
  intro passes
  have hsingle : ∀ x, passes [x] = ((Statement.ofJson x).verdict? options).getD false :=
    fun x => test_singleton _ options
  have hdenials : ∀ xs : List Json,
      Statement.ofItems (xs.map fun x => Json.object [("not", x)]) =
        (Statement.ofItems xs).map .not := by
    intro xs
    simp [ofItems_eq_map, Statement.ofJson]
  refine ⟨?_, ?_, ?_, ?_, ?_, ?_, ?_⟩
  · intro xs ys
    show test ⟨(xs ++ ys).map Statement.ofJson⟩ options = _
    rw [List.map_append, test_append]
    rfl
  · exact fun xs ys h => test_of_alike (h.alike fun _ _ => Regroups.alike)
  · intro xs
    rw [hsingle, Statement.ofJson, ofItems_eq_map, ← test_eq_verdict]
    rfl
  · intro x
    rw [hsingle, hsingle, Statement.ofJson, Statement.ofJson, verdict?_not_not]
  · intro xs
    rw [hsingle, hsingle, Statement.ofJson, Statement.ofJson, Statement.ofJson, hdenials,
      verdict?_not_all]
  · intro xs
    rw [hsingle, hsingle, Statement.ofJson, Statement.ofJson, Statement.ofJson, hdenials,
      verdict?_not_any]
  · exact fun xs ys h => test_of_alike (h.alike fun _ _ => SpellsOut.alike)

-- Of two denials in front of a tag, the second belongs to the tag.
example :
    (ofJson? (some (.string "not:not:prone"))).test (.ofList ["prone"]) = true ∧
      (ofJson? (some (.object [("not", .string "not:prone")]))).test (.ofList ["prone"]) = true ∧
      (ofJson? (some (.string "not:not:prone"))).test ∅ = true ∧
      (ofJson? (some (.object [("not", .string "not:prone")]))).test ∅ = false := by
  decide +kernel

/-! ### An ambush

Whoever aims has to be hidden, or else prone. The condition may be given twice, with the operands in
another order and one of them repeated, and the denial in it may be spelled out.
-/

/-- A statement that the operands do not all hold, or else the tag `prone`. -/
def proneUnless (operands : List Json) : Json :=
  .object [("or", .array [.object [("not", .object [("and", .array operands)])], .string "prone"])]

/-- The tag `hidden` is absent. -/
def seen : Json := .string "not:hidden"

theorem test_rewordings_ambush :
    Rewrites Regroups (.array [proneUnless [.string "aiming", seen]])
      (.array [proneUnless [seen, .string "aiming", seen],
        proneUnless [seen, .string "aiming", seen]]) ∧
    Rewrites SpellsOut (.array [proneUnless [.string "aiming", seen]])
      (.array [proneUnless [.string "aiming", .object [("not", .string "hidden")]]]) ∧
    ∀ options ∈ [RollOptions.ofList ["aiming", "hidden"], .ofList ["aiming"]],
      (ofJson? (some (.array [proneUnless [seen, .string "aiming", seen],
        proneUnless [seen, .string "aiming", seen]]))).test options =
          options.contains "hidden" ∧
      (ofJson? (some (.array [proneUnless
        [.string "aiming", .object [("not", .string "hidden")]]]))).test options =
          options.contains "hidden" := by
  have hregroups : Rewrites Regroups (.array [proneUnless [.string "aiming", seen]])
      (.array [proneUnless [seen, .string "aiming", seen],
        proneUnless [seen, .string "aiming", seen]]) := by
    have hoperands : Regroups (.array [.string "aiming", seen])
        (.array [seen, .string "aiming", seen]) := by
      constructor
      intro j
      simp only [List.mem_cons, List.not_mem_nil, or_false]
      tauto
    exact .trans (.item [] [] (.entry [] [] "or" (.item [] [.string "prone"] (.entry [] [] "not"
      (.entry [] [] "and" (.rule hoperands)))))) (.rule (.intro (by simp [proneUnless])))
  have hspells : Rewrites SpellsOut (.array [proneUnless [.string "aiming", seen]])
      (.array [proneUnless [.string "aiming", .object [("not", .string "hidden")]]]) := by
    have hplain : ∀ rest, "hidden" ≠ "not:" ++ rest := by
      intro rest heq
      have hdenied := Statement.denied?_eq_some_iff.2 heq
      revert hdenied
      simp [Statement.denied?]
    exact .item [] [] (.entry [] [] "or" (.item [] [.string "prone"] (.entry [] [] "not"
      (.entry [] [] "and" (.item [.string "aiming"] [] (.rule (.intro hplain)))))))
  have hverdict : ∀ options ∈ [RollOptions.ofList ["aiming", "hidden"], .ofList ["aiming"]],
      (ofJson? (some (.array [proneUnless [.string "aiming", seen]]))).test options =
        options.contains "hidden" := by
    decide +kernel
  refine ⟨hregroups, hspells, ?_⟩
  intro options hoptions
  obtain ⟨-, hsame, -, -, -, -, hspelled⟩ := test_rewordings options
  constructor
  · exact (hsame _ _ hregroups).symm.trans (hverdict options hoptions)
  · exact (hspelled _ _ hspells).symm.trans (hverdict options hoptions)

end Predicate

end Percentile
