import Percentile.Proofs.Condition
import Percentile.Proofs.Parts
import Percentile.Proofs.Records

/-!
# What a statement is written as

Statements are read from JSON and written as JSON. This file says which of the two ways is lossless.

**Reading loses nothing** (`Statement.toJson_ofJson`). Every JSON value is read as some statement,
which is written as that value.

**Writing may** (`Statement.ofJson_toJson_iff`). Code can build statements that content cannot
spell: one that demands a tag starting with `not:` is written like one that denies the rest of it,
and a malformed one can hold a value that is a statement. A statement is read back as itself exactly
if none of its parts is of these two kinds, if it is *canonical*.

**Theorem (`recovered_iff_canonical`).** The same for predicates, and what content can give rise to
is canonical (`Predicate.Authored.canonical`).
-/

namespace Percentile

namespace Statement

/-! ## Reading and writing back -/

theorem toJson_ofText (text : String) : (ofText text).toJson = .string text := by
  unfold ofText
  cases hdenied : denied? text with
  | none => rfl
  | some tag => rw [toJson, denied?_eq_some_iff.1 hdenied]

/-- **Every value is written as it was read.** -/
theorem toJson_ofJson (j : Json) : (ofJson j).toJson = j := by
  induction j using ofJson_induction with
  | text tag => rw [ofJson, toJson_ofText]
  | all items ih | any items ih =>
    rw [ofJson, toJson, toItems_eq_map, ofItems_eq_map, List.map_map]
    congr
    exact (List.map_congr_left ih).trans (List.map_id items)
  | not inner ih => rw [ofJson, toJson, ih]
  | other raw h => rw [h, toJson]

/-! ## Writing and reading back -/

/-- A leaf that content could give: a demanded tag does not start with `not:`, and no malformed
value could be read as a statement. -/
def Legible : Statement → Prop
  | .atom tag => ∀ rest, tag ≠ "not:" ++ rest
  | .malformed raw => ∃ raw', ofJson raw = .malformed raw'
  | .negated _ | .all _ | .any _ | .not _ => True

/-- A statement that content could give. -/
def Canonical (s : Statement) : Prop := ∀ part : Statement, part.PartOf s → part.Legible

theorem canonical_iff {s : Statement} :
    s.Canonical ↔ s.Legible ∧ ∀ operand ∈ s.operands, operand.Canonical := by
  unfold Canonical
  simp only [partOf_iff (s := s)]
  constructor
  · intro h
    exact ⟨h s (.inl rfl), fun operand ho part hpart => h part (.inr ⟨operand, ho, hpart⟩)⟩
  · rintro ⟨hs, hoperands⟩ part (rfl | ⟨operand, ho, hpart⟩)
    · exact hs
    · exact hoperands operand ho part hpart

/-- A value that is malformed at all is so as a whole. -/
theorem eq_of_ofJson_eq_malformed {j raw : Json} (h : ofJson j = .malformed raw) : j = raw := by
  rw [← toJson_ofJson j, h, toJson]

/-- Operands are read back as themselves exactly if each of them is. -/
theorem ofItems_toItems_eq_iff {items : List Statement} :
    ofItems (toItems items) = items ↔ ∀ s ∈ items, ofJson s.toJson = s := by
  rw [toItems_eq_map, ofItems_eq_map, List.map_map]
  constructor
  · intro h s hs
    exact List.map_inj_left.1 (h.trans (List.map_id items).symm) s hs
  · intro h
    exact (List.map_congr_left h).trans (List.map_id items)

/-- **A statement is read back as itself exactly if it is canonical.** -/
theorem ofJson_toJson_iff (s : Statement) : ofJson s.toJson = s ↔ s.Canonical := by
  induction s using Statement.induction with
  | atom tag =>
    rw [canonical_iff, toJson, ofJson, ofText]
    cases hdenied : denied? tag with
    | none =>
      have hlegible : Legible (.atom tag) := fun rest hrest => by
        rw [denied?_eq_some_iff.2 hrest] at hdenied
        cases hdenied
      simp [hlegible, operands]
    | some rest =>
      have hillegible : ¬ Legible (.atom tag) := fun h => h rest (denied?_eq_some_iff.1 hdenied)
      simp [hillegible]
  | negated tag =>
    have hdenied : denied? ("not:" ++ tag) = some tag := denied?_eq_some_iff.2 rfl
    simp [canonical_iff (s := .negated tag), Legible, operands, toJson, ofJson, ofText, hdenied]
  | all items ih =>
    simp only [canonical_iff (s := .all items), toJson, ofJson, Statement.all.injEq,
      ofItems_toItems_eq_iff, Legible, operands, true_and]
    exact forall₂_congr ih
  | any items ih =>
    simp only [canonical_iff (s := .any items), toJson, ofJson, Statement.any.injEq,
      ofItems_toItems_eq_iff, Legible, operands, true_and]
    exact forall₂_congr ih
  | not inner ih =>
    simp [canonical_iff (s := .not inner), toJson, ofJson, Legible, operands, ih]
  | malformed raw =>
    simp only [canonical_iff (s := .malformed raw), toJson, Legible, operands, List.not_mem_nil,
      false_implies, implies_true, and_true]
    constructor
    · exact fun h => ⟨raw, h⟩
    · rintro ⟨raw', h⟩
      rw [h, eq_of_ofJson_eq_malformed h]

theorem canonical_ofJson (j : Json) : (ofJson j).Canonical := by
  rw [← ofJson_toJson_iff, toJson_ofJson]

theorem canonical_ofText (text : String) : (ofText text).Canonical := by
  have hjson := canonical_ofJson (.string text)
  rwa [ofJson] at hjson

end Statement

/-! ## Predicates -/

namespace Predicate

open Statement

/-- The predicates that content gives, read or spelled out further by a text. -/
inductive Authored : Predicate → Prop
  | ofJson? (raw : Option Json) : Authored (ofJson? raw)
  | read {d : Draft} {p : Predicate} (h : Predicate.read d = .ok p) : Authored p
  | and {p : Predicate} (h : Authored p) (text : String) : Authored (p.and (.ofText text))

/-- **What content gives is canonical.** -/
theorem Authored.canonical {p : Predicate} (h : p.Authored) : ∀ s ∈ p.statements, s.Canonical := by
  have hofJson? : ∀ raw, ∀ s ∈ (Predicate.ofJson? raw).statements, s.Canonical := by
    intro raw s hs
    rw [statements_ofJson?] at hs
    obtain ⟨j, -, rfl⟩ := List.mem_map.1 hs
    exact canonical_ofJson j
  induction h with
  | ofJson? raw => exact hofJson? raw
  | read h =>
    obtain ⟨j, -, rfl⟩ := map_eq_ok.1 h
    exact hofJson? (some j)
  | and _ text ih =>
    intro s hs
    rcases List.mem_append.1 hs with hs | hs
    · exact ih s hs
    · rw [List.mem_singleton.1 hs]
      exact canonical_ofText text

theorem ofJson_toJson_iff (p : Predicate) :
    ofJson p.toJson = p ↔ ∀ s ∈ p.statements, s.Canonical := by
  obtain ⟨statements⟩ := p
  rw [toJson, ofJson, Predicate.mk.injEq, ← ofItems_eq_map, ← toItems_eq_map,
    ofItems_toItems_eq_iff]
  exact forall₂_congr fun s _ => Statement.ofJson_toJson_iff s

/-- **What is canonical is recovered, and nothing else is.** Every value is written as it was read.
A statement is read back as itself exactly if no part of it demands a tag that starts with `not:`
and every malformed part holds a value that is read as malformed. A predicate is read back as itself
exactly if that is true of all its statements. It is true of predicates that were read, and stays
true when texts are added to them as further statements. -/
theorem recovered_iff_canonical :
    (∀ j : Json, (Statement.ofJson j).toJson = j) ∧
    (∀ s : Statement, Statement.ofJson s.toJson = s ↔ s.Canonical) ∧
    (∀ p : Predicate, ofJson? (some p.toJson) = p ↔ ∀ s ∈ p.statements, s.Canonical) ∧
    ∀ p : Predicate, p.Authored → ∀ s ∈ p.statements, s.Canonical :=
  ⟨toJson_ofJson, Statement.ofJson_toJson_iff, ofJson_toJson_iff, fun _ h => h.canonical⟩

/-! ### A lantern

Content can deny the lantern by a text, and that is recovered. Code can demand the tag `not:lantern`
literally, which comes back as the denial. It can also pass off the lantern as malformed, and then a
statement that never holds comes back as one that may.
-/

def withoutLantern : Predicate :=
  (ofJson? (some (.string "self:aiming"))).and (.ofText "not:lantern")

theorem recovered_iff_canonical_lantern :
    withoutLantern.Authored ∧ ofJson? (some withoutLantern.toJson) = withoutLantern ∧
    ¬ (Statement.atom "not:lantern").Canonical ∧
    ofJson? (some (Predicate.atom "not:lantern").toJson) = ⟨[.negated "lantern"]⟩ ∧
    ¬ (Statement.malformed (.string "lantern")).Canonical ∧
    Statement.ofJson (Statement.malformed (.string "lantern")).toJson = .atom "lantern" := by
  obtain ⟨-, hstatement, hpredicate, hauthored⟩ := recovered_iff_canonical
  have hcontent : withoutLantern.Authored := .and (.ofJson? _) _
  refine ⟨hcontent, (hpredicate _).2 (hauthored _ hcontent), ?_, by decide +kernel, ?_,
    by decide +kernel⟩
  · rw [← hstatement]
    decide +kernel
  · rw [← hstatement]
    decide +kernel

end Predicate

end Percentile
