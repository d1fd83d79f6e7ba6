import Percentile.Item
import Percentile.Text.Blank
import Percentile.Text.Numeral

/-!
# Rule values

A rule gives a number either literally or as the word `rating`, which stands for the rating of the
item that declares the rule. Content may write a number as a string, with blanks around it. The word
has to stand alone.
-/

namespace Percentile

/-- A number, or a reference to the rating of the owning item. -/
inductive RuleValue where
  | literal (n : Score)
  | rating
  deriving DecidableEq

namespace RuleValue

instance : Inhabited RuleValue := ⟨.literal 0⟩

/-- The number that the value stands for in a rule of the given item. -/
def resolve (v : RuleValue) (owner : Item) : Score :=
  match v with
  | .literal n => n
  | .rating => owner.rating

/-- The value that a text names. -/
def ofText? (text : String) : Option RuleValue :=
  if text = "rating" then some .rating
  else
    (Text.integer? (Text.trim text.toList)).bind fun n => (Score.ofInt? n).map .literal

/-- How content words a rule value. -/
inductive Wording where
  | number (n : Score)
  | text (text : String)

def Wording.read : Reader Wording :=
  .firstOf "RawValue"
    [fun d => (Reader.score d).map .number, fun d => (Reader.text d).map .text]

/-- The value of a wording. -/
def ofWording : Wording → Except ReadError RuleValue
  | .number n => .ok (.literal n)
  | .text text =>
    match ofText? text with
    | some v => .ok v
    | none => .error (.notRuleValue text)

def read : Reader RuleValue := fun d => Wording.read d >>= ofWording

/-- Write a rule value, a number as a number. -/
def toJson : RuleValue → Json
  | .literal n => .score n
  | .rating => .string "rating"

end RuleValue

end Percentile
