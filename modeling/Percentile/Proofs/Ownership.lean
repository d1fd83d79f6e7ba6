import Percentile.Rule.Element

/-!
# What a rule reads from its owner

An element is prepared for the item that declares it, and the item carries more than the element has
to know: a number, host data, other rules. This file says what an element can tell of two owners.

**Resemblance** (`Item.Resembles`). Two items resemble each other if they have the same rating and
the same choices, in whatever way their attributes come to the rating. Rules read nothing else from
them but the name (`Element.prepare_congr`).

**The name** is read in two places only. Every error names the item
(`Element.names_owner_of_error`), and so does the modifier of a rule that gives no source of its own
(`Element.Unsourced`).

**Theorem (`prepare_reads_owner`).** So owners that resemble each other cannot be told apart if they
have the same name, and with different names exactly if the element succeeds and is not one of these
modifiers.
-/

namespace Percentile

/-- The items have the same rating and the same choices. -/
structure Item.Resembles (a b : Item) : Prop where
  rating_eq : a.rating = b.rating
  choice?_eq (flag : String) : a.choice? flag = b.choice? flag

variable {a b owner : Item} {name : String} {s : Synthetics}

theorem RuleValue.resolve_congr (h : a.Resembles b) (v : RuleValue) :
    v.resolve a = v.resolve b := by
  cases v with
  | literal n => rfl
  | rating => exact h.rating_eq

/-- What is added for a domain can be told from the synthetics. -/
theorem Synthetics.addModifier_inj {d : Domain} {m m' : Modifier} :
    s.addModifier d m = s.addModifier d m' ↔ m = m' := by
  refine ⟨fun h => ?_, fun h => by rw [h]⟩
  have htable := congrArg (fun t : Synthetics => t.modifiers.find? d.text) h
  simp only [addModifier, Table.append, Table.find?_put, if_true, Option.some.injEq] at htable
  exact (List.cons.inj (List.append_cancel_left htable)).1

namespace Element

variable {e : Element}

/-- The rule of the element is a flat modifier that gives no source to display. -/
def Unsourced (e : Element) : Prop := ∃ r, e.rule = .flatModifier r ∧ r.source = none

/-- **An element reads the rating, the choices and the name of its owner**, and nothing else. -/
theorem prepare_congr (h : a.Resembles b) (hname : a.name = b.name) (e : Element) (s : Synthetics) :
    e.prepare a s = e.prepare b s := by
  obtain ⟨_, label, rule⟩ := e
  cases rule with
  | flatModifier r => simp only [prepare, modifier, RuleValue.resolve_congr h, hname]
  | rollOption r | diceOverride r => simp only [prepare, hname]
  | adjustDegree r | grantItem r => rfl
  | resistance r | adjustToughness r => simp only [prepare, RuleValue.resolve_congr h, hname]
  | choiceSet r => simp only [prepare, h.choice?_eq, hname]

/-! ## The name -/

/-- Every error is about an empty field and names the kind of the rule and the item. -/
theorem names_owner_of_error {cause : RuleError} (h : (e.prepare owner s).2 = .error cause) :
    ∃ field, cause = .emptyField e.key owner.name field := by
  obtain ⟨_, label, rule⟩ := e
  cases rule with
  | flatModifier r | rollOption r | diceOverride r | resistance r =>
    simp only [prepare] at h
    split at h
    · exact ⟨_, (Except.error.inj h).symm⟩
    · cases h
  | adjustDegree r | adjustToughness r | grantItem r => cases h
  | choiceSet r =>
    simp only [prepare] at h
    split at h
    · exact ⟨_, (Except.error.inj h).symm⟩
    · split at h <;> cases h

/-- An element that succeeds does not read the name, unless it has to name the source of a
modifier. -/
theorem prepare_rename_of_ok (hok : (e.prepare owner s).2 = .ok ()) (hsourced : ¬ e.Unsourced)
    (name : String) : e.prepare { owner with name } s = e.prepare owner s := by
  obtain ⟨_, label, rule⟩ := e
  cases rule with
  | flatModifier r =>
    cases hsource : r.source with
    | none => exact absurd ⟨r, rfl, hsource⟩ hsourced
    | some source =>
      simp only [prepare] at hok ⊢
      split at hok
      · cases hok
      · rename_i hdomain
        rw [if_neg hdomain, if_neg hdomain]
        simp only [modifier, hsource]
        rfl
  | rollOption r | diceOverride r =>
    simp only [prepare] at hok ⊢
    split at hok
    · cases hok
    · rename_i hfield
      rw [if_neg hfield, if_neg hfield]
  | resistance r | choiceSet r =>
    simp only [prepare] at hok ⊢
    split at hok
    · cases hok
    · rename_i hfield
      rw [if_neg hfield, if_neg hfield]
      rfl
  | adjustDegree r | adjustToughness r | grantItem r => rfl

/-- An error and an unsourced modifier tell the name of the owner. -/
theorem prepare_rename_ne (hname : name ≠ owner.name)
    (h : (e.prepare owner s).2 = .ok () → e.Unsourced) :
    e.prepare { owner with name } s ≠ e.prepare owner s := by
  intro heq
  cases hresult : (e.prepare owner s).2 with
  | error cause =>
    -- Both runs end with the same error, so it names both owners.
    obtain ⟨field, hfield⟩ := names_owner_of_error hresult
    rw [← heq] at hresult
    obtain ⟨field', hfield'⟩ := names_owner_of_error hresult
    rw [hfield] at hfield'
    exact hname (RuleError.emptyField.inj hfield').2.1.symm
  | ok =>
    obtain ⟨r, hrule, hsource⟩ := h hresult
    simp only [prepare, hrule] at hresult heq
    split at hresult
    · cases hresult
    · rename_i hdomain
      rw [if_neg hdomain, if_neg hdomain, Prod.mk.injEq, Synthetics.addModifier_inj] at heq
      have hsources := congrArg Modifier.source heq.1
      simp only [modifier, hsource] at hsources
      exact hname hsources

/-- **What an element reads from its owner.** Let two items have the same rating and the same
choices. If they also have the same name, an element has the same result for both, an error
included, and leaves the same synthetics. If their names differ, the same holds of an element that
succeeds, unless it is a flat modifier without a source; and it holds of no other element. -/
theorem prepare_reads_owner (e : Element) (s : Synthetics) (a b : Item) (h : a.Resembles b) :
    (a.name = b.name → e.prepare a s = e.prepare b s) ∧
    ((e.prepare a s).2 = .ok () → ¬ e.Unsourced → e.prepare a s = e.prepare b s) ∧
    (a.name ≠ b.name → (e.prepare a s).2 ≠ .ok () ∨ e.Unsourced →
      e.prepare a s ≠ e.prepare b s) := by
  -- Up to its name, the second item can be replaced by the first one.
  have hrename : e.prepare b s = e.prepare { a with name := b.name } s :=
    (prepare_congr (a := { a with name := b.name }) ⟨h.rating_eq, h.choice?_eq⟩ rfl e s).symm
  refine ⟨fun hname => prepare_congr h hname e s, fun hok hsourced => ?_, fun hname hread => ?_⟩
  · rw [hrename]
    exact (prepare_rename_of_ok hok hsourced b.name).symm
  · rw [hrename]
    refine (prepare_rename_ne (Ne.symm hname) fun hok => ?_).symm
    exact hread.resolve_left fun hfails => hfails hok

/-! ### Wards against fear

A talisman has the rating `high`, which is no number and counts as zero, and an amulet of the same
name has none. They resemble each other, and so does a medallion. A ward shows the name of its item
unless it gives a source.
-/

def talisman : Item :=
  Item.withChoice (Item.withAttribute { id := ⟨1⟩, name := "Talisman" } "rating"
    (.other (.string "high"))) "patron" "saint"

def amulet : Item :=
  Item.withRule (Item.withChoice { id := ⟨2⟩, name := "Talisman" } "patron" "saint") .null

def medallion : Item := { amulet with id := ⟨3⟩, name := "Medallion" }

def ward : Element :=
  .declare talisman none (.flatModifier { domain := ⟨"fear"⟩, value := .rating })

def sourcedWard : Element :=
  .declare talisman none
    (.flatModifier { domain := ⟨"fear"⟩, value := .rating, source := some "Saint" })

theorem prepare_reads_owner_talisman :
    talisman.Resembles amulet ∧ talisman.Resembles medallion ∧
    ward.prepare talisman ∅ = ward.prepare amulet ∅ ∧
    sourcedWard.prepare talisman ∅ = sourcedWard.prepare medallion ∅ ∧
    ward.prepare talisman ∅ ≠ ward.prepare medallion ∅ := by
  have hamulet : talisman.Resembles amulet := ⟨by decide +kernel, fun _ => rfl⟩
  have hmedallion : talisman.Resembles medallion := ⟨by decide +kernel, fun _ => rfl⟩
  have hsourced : ¬ sourcedWard.Unsourced := by
    rintro ⟨r, hrule, hsource⟩
    cases hrule
    cases hsource
  obtain ⟨hsame, _, _⟩ := prepare_reads_owner ward ∅ talisman amulet hamulet
  obtain ⟨_, hsourcedWard, _⟩ := prepare_reads_owner sourcedWard ∅ talisman medallion hmedallion
  obtain ⟨_, _, hward⟩ := prepare_reads_owner ward ∅ talisman medallion hmedallion
  exact ⟨hamulet, hmedallion, hsame rfl, hsourcedWard rfl hsourced,
    hward (by decide) (.inr ⟨_, rfl, rfl⟩)⟩

end Element

end Percentile
