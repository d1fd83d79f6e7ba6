import Percentile.Reader.Record

/-!
# Configuration

A host tunes the library by one number, the cap on the modifier total of a check. A configuration
that was built in code may hold any cap, and `validate` refuses a negative one. Reading a
configuration from text validates it.
-/

namespace Percentile

/-- What a host can tune. -/
structure Configuration where
  /-- Modifier totals stay between the cap and its opposite. -/
  modifierCap : Score := 60
  deriving DecidableEq

inductive ConfigurationError where
  /-- The cap is negative. -/
  | negativeCap (cap : Score)
  /-- The text cannot be read. -/
  | unreadable (cause : ReadError)
  deriving DecidableEq

namespace ConfigurationError

/-- The message of an error, if its cause has one. -/
def message? : ConfigurationError → Option String
  | .negativeCap cap => some s!"modifier cap must be non-negative, got {cap}"
  | .unreadable cause => cause.message?

end ConfigurationError

namespace Configuration

/-- Refuse a negative cap. -/
def validate (c : Configuration) : Except ConfigurationError Configuration :=
  if c.modifierCap < 0 then .error (.negativeCap c.modifierCap) else .ok c

def record : Record Configuration :=
  Configuration.mk <$> .optional "modifierCap" .score ({} : Configuration).modifierCap

/-- Read a configuration without validating it. -/
def read : Reader Configuration := record.read "EngineConfig"

/-- Read a configuration from text and validate it. -/
def ofText (text : String) : Except ConfigurationError Configuration :=
  match read.readText text with
  | .ok c => c.validate
  | .error cause => .error (.unreadable cause)

def toJson (c : Configuration) : Json := .ofFields [("modifierCap", .score c.modifierCap)]

end Configuration

end Percentile
