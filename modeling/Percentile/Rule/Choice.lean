import Percentile.Reader.Record

/-!
# Choices

What a choice-set rule offers: a list of choices, each a plain value or a value with a label to
display. Content writes the first as a string and the second as an object, and each is written back
as it was read.
-/

namespace Percentile

/-- One of the values that a choice-set rule offers. -/
inductive Choice where
  /-- A value that is its own label. -/
  | plain (value : String)
  /-- A value with a label. -/
  | labeled (value label : String)
  deriving DecidableEq

namespace Choice

/-- The value that is stored when this choice is made. -/
def value : Choice → String
  | .plain value => value
  | .labeled value _ => value

/-- How a choice with a label is read. -/
def labeledRecord : Record Choice :=
  Choice.labeled <$> .required "value" .text <*> .required "label" .text

/-- Read a choice with a label. An array is none. -/
def readLabeled : Reader Choice := fun d =>
  match d.unfold with
  | .object .. => labeledRecord.read "Choice" d
  | d => .error (d.mismatch "struct Choice")

def read : Reader Choice := .firstOf "Choice" [fun d => (Reader.text d).map .plain, readLabeled]

def toJson : Choice → Json
  | .plain value => .string value
  | .labeled value label => .ofFields [("value", .string value), ("label", .string label)]

end Choice

end Percentile
