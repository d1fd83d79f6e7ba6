import Percentile.Reader.Basic

/-!
# Check domains

A *domain* names the kind of check that a modifier applies to, such as `characteristic:bs` or
`skill:stealth:sneak`. Its text is cut into segments by colons and points, which count alike, and
segments may be empty.

**Inheritance.** A domain of three or more segments takes over what is registered for its *parent*,
the domain without the last segment. It takes over nothing from further up, and nothing flows from a
domain to those below it. So what applies in a domain is registered for its *lineage*: the domain
itself and its parent, if it has one.

**Depth.** A parent is one segment shorter (`depth_parent?`), so the chain of parents ends.
-/

namespace Percentile

/-- The kind of a check. -/
structure Domain where
  text : String
  deriving DecidableEq, Repr, Inhabited

namespace Domain

/-- Whether a character ends a segment. -/
def isSeparator (c : Char) : Bool := c == ':' || c == '.'

def isEmpty (d : Domain) : Bool := d.text.isEmpty

/-- The number of separators. -/
def separators (d : Domain) : Nat := d.text.toList.countP isSeparator

/-- The number of segments. The empty domain has none. -/
def depth (d : Domain) : Nat := if d.isEmpty then 0 else d.separators + 1

/-- The least depth of a domain with a parent. -/
def inheritingDepth : Nat := 3

/-- The text before the last separator, if there is one. -/
def beforeLast? (cs : List Char) : Option (List Char) :=
  match cs.reverse.dropWhile (!isSeparator ·) with
  | [] => none
  | _ :: front => some front.reverse

/-- The domain that this one takes over modifiers from. -/
def parent? (d : Domain) : Option Domain :=
  if d.depth < inheritingDepth then none
  else (beforeLast? d.text.toList).map fun cs => ⟨String.ofList cs⟩

/-- The domain and its parent, if it has one. -/
def lineage (d : Domain) : List Domain := d :: d.parent?.toList

def read : Reader Domain := fun d => (Reader.text d).map .mk

def toJson (d : Domain) : Json := .string d.text

/-! ## The chain of parents -/

/-- Before the last separator stands all of the text but that separator and a tail without one. -/
theorem beforeLast?_eq_some {cs front : List Char} (h : beforeLast? cs = some front) :
    ∃ sep tail, isSeparator sep ∧ (∀ c ∈ tail, isSeparator c = false) ∧
      cs = front ++ sep :: tail := by
  have split := List.takeWhile_append_dropWhile (p := (!isSeparator ·)) (l := cs.reverse)
  unfold beforeLast? at h
  split at h
  · simp at h
  · rename_i sep front' hdrop
    simp only [Option.some.injEq] at h
    subst h
    refine ⟨sep, (cs.reverse.takeWhile (!isSeparator ·)).reverse, ?_, ?_, ?_⟩
    · have := List.head?_dropWhile_not (!isSeparator ·) cs.reverse
      rw [hdrop] at this
      simpa using this
    · intro c hc
      have := List.all_takeWhile (p := (!isSeparator ·)) (l := cs.reverse)
      rw [List.all_eq_true] at this
      simpa using this c (List.mem_reverse.1 hc)
    · rw [hdrop] at split
      have := congrArg List.reverse split
      simpa using this.symm

/-- A parent has one segment less. -/
theorem depth_parent? {d p : Domain} (h : d.parent? = some p) : p.depth + 1 = d.depth := by
  unfold parent? at h
  split at h
  · simp at h
  · rename_i hdepth
    obtain ⟨front, hfront, rfl⟩ := Option.map_eq_some_iff.1 h
    obtain ⟨sep, tail, hsep, htail, hcs⟩ := beforeLast?_eq_some hfront
    have hcount : d.separators = front.countP isSeparator + 1 := by
      have : tail.countP isSeparator = 0 := List.countP_eq_zero.2 (by simpa using htail)
      simp [separators, hcs, List.countP_append, hsep, this]
    unfold depth inheritingDepth at hdepth
    unfold depth
    split at hdepth
    · omega
    · rename_i hne
      rw [if_neg hne]
      have hfrontne : (⟨String.ofList front⟩ : Domain).isEmpty = false := by
        cases front with
        | nil => simp at hcount; omega
        | cons c cs => simp [isEmpty]
      simp only [separators] at hcount
      simp only [hfrontne, Bool.false_eq_true, if_false, separators, String.toList_ofList]
      omega

/-- The parent, its parent, and so on. -/
def ancestors (d : Domain) : List Domain :=
  match _h : d.parent? with
  | none => []
  | some p => p :: ancestors p
termination_by d.depth
decreasing_by have := depth_parent? _h; omega

end Domain

end Percentile
