import Percentile.Json.Draft
import Percentile.Json.Token

/-!
# JSON documents

The tokens of a text are put together to a draft by a machine that takes one token at a time,
`Composer.step`. Its state is the place it has come to and the *frames* around that place: the
containers that are still open, the innermost first. A token that does not fit, or the end of the
text, closes all open containers where they stand (`Composer.cut`). So every text has a draft, and
one that is not JSON has a draft with a flaw at the place where it stops being JSON.
-/

namespace Percentile

/-- An open container around the place at hand, with what stands before that place, backwards. -/
inductive Frame where
  | array (before : List Draft)
  /-- An object, with the key whose value stands at the place. -/
  | object (before : List (Option String × Draft)) (key : Option String)

/-- The place that a document has been put together to. -/
inductive Composer where
  /-- A value has to start. -/
  | value (frames : List Frame)
  /-- An array has been opened. -/
  | arrayStart (frames : List Frame)
  /-- An item has ended. -/
  | itemEnd (frames : List Frame) (before : List Draft)
  /-- An object has been opened. -/
  | objectStart (frames : List Frame)
  /-- A key has to start, after a comma. -/
  | nextKey (frames : List Frame) (before : List (Option String × Draft))
  /-- A key has ended. -/
  | keyEnd (frames : List Frame) (before : List (Option String × Draft)) (key : Option String)
  /-- An entry has ended. -/
  | entryEnd (frames : List Frame) (before : List (Option String × Draft))
  /-- The document is complete, and something may stand behind it. -/
  | done (root : Draft) (trailing : Bool)

namespace Composer

/-- A container inside the given frames, or the note that it is nested too deeply. -/
def nested (frames : List Frame) (d : Draft) : Draft :=
  -- the frames are as many as the limit or more if there is one in the last place below it
  if frames[Draft.nestingLimit - 1]?.isNone then d else .deep d.sound

/-- An array with its items backwards. -/
def closeArray (frames : List Frame) (before : List Draft) (ending : Ending) : Draft :=
  nested frames (.array before.reverse ending)

/-- An object with its entries backwards. -/
def closeObject (frames : List Frame) (before : List (Option String × Draft)) (ending : Ending) :
    Draft :=
  nested frames (.object before.reverse ending)

/-- Put a complete value in its place. -/
def plug (d : Draft) : List Frame → Composer
  | [] => .done d false
  | .array before :: frames => .itemEnd frames (d :: before)
  | .object before key :: frames => .entryEnd frames ((key, d) :: before)

/-- Close all frames around a value where they stand. -/
def cutFrames (d : Draft) : List Frame → Draft
  | [] => d
  | .array before :: frames => cutFrames (closeArray frames (d :: before) .cut) frames
  | .object before key :: frames =>
    cutFrames (closeObject frames ((key, d) :: before) .cut) frames

/-- The draft of a document that ends at the given place. -/
def cut : Composer → Draft
  | .value frames => cutFrames .missing frames
  | .arrayStart frames => cutFrames (closeArray frames [] .cut) frames
  | .itemEnd frames before => cutFrames (closeArray frames before .cut) frames
  | .objectStart frames => cutFrames (closeObject frames [] .cut) frames
  | .nextKey frames before => cutFrames (closeObject frames before .cut) frames
  | .keyEnd frames before key =>
    cutFrames (closeObject frames ((key, .missing) :: before) .cut) frames
  | .entryEnd frames before => cutFrames (closeObject frames before .cut) frames
  | .done root _ => root

/-- Start a value with a token, or `none` if no value starts with it. -/
def startValue? (frames : List Frame) : Token → Option Composer
  | .openArray => some (.arrayStart frames)
  | .openObject => some (.objectStart frames)
  | .null => some (plug .null frames)
  | .bool b => some (plug (.bool b) frames)
  | .number n => some (plug (.number n) frames)
  | .string s => some (plug (.string s) frames)
  | .closeArray | .closeObject | .comma | .colon | .stray => none

def step (c : Composer) (t : Token) : Composer :=
  match c, t with
  | .value frames, t => (startValue? frames t).getD (.done c.cut true)
  | .arrayStart frames, .closeArray => plug (closeArray frames [] .closed) frames
  | .arrayStart frames, t => (startValue? (.array [] :: frames) t).getD (.done c.cut true)
  | .itemEnd frames before, .comma => .value (.array before :: frames)
  | .itemEnd frames before, .closeArray => plug (closeArray frames before .closed) frames
  | .objectStart frames, .closeObject => plug (closeObject frames [] .closed) frames
  | .objectStart frames, .string key => .keyEnd frames [] key
  | .nextKey frames before, .string key => .keyEnd frames before key
  | .keyEnd frames before key, .colon => .value (.object before key :: frames)
  | .entryEnd frames before, .comma => .nextKey frames before
  | .entryEnd frames before, .closeObject => plug (closeObject frames before .closed) frames
  | .done root _, _ => .done root true
  | c, _ => .done c.cut true

end Composer

/-- The document of a text. -/
structure Document where
  /-- The draft of the first value in the text. -/
  root : Draft
  /-- Whether anything but white space stands behind that value. -/
  trailing : Bool

/-- Put the tokens of a text together. -/
def Document.ofText (text : String) : Document :=
  match (Token.scan text).foldl Composer.step (.value []) with
  | .done root trailing => ⟨root, trailing⟩
  | c => ⟨c.cut, false⟩

end Percentile
