import Percentile.Json.Basic

/-!
# Number literals

A number literal is read digit by digit into a `NumberText`, which says how far the grammar

    -? (0 | [1-9][0-9]*) (. [0-9]+)? ([eE] [+-]? [0-9]+)?

has come and keeps the value as a significand and a power of ten.

**The significand is a 64-bit word.** A digit that would overflow it is dropped. A dropped digit
before the point raises the power of ten, a dropped digit after the point has no effect. Digits
after the point are tried again even when one before it was dropped.

**The exponent is a signed 32-bit word.** One that overflows it makes the number zero if it is
negative or the significand is zero, and takes it out of range otherwise.
-/

namespace Percentile

/-- How far a number literal has come. -/
inductive NumberText.Phase where
  /-- A minus sign, and no digit yet. -/
  | start
  /-- The digit zero, after which no digit may stand. -/
  | zero
  /-- Digits before the point. -/
  | whole
  /-- The point, and no digit after it yet. -/
  | point
  /-- Digits after the point. -/
  | fraction
  /-- The mark of the exponent. -/
  | mark
  /-- The sign of the exponent, and no digit after it yet. -/
  | markSign
  /-- Digits of the exponent. -/
  | power
  deriving DecidableEq

/-- A number literal read so far. -/
structure NumberText where
  /-- How far the grammar has come. -/
  phase : NumberText.Phase
  /-- Whether the literal starts with a minus sign. -/
  negative : Bool := false
  /-- The digits kept. -/
  significand : Nat := 0
  /-- The power of ten that the position of the point gives to the digits kept. -/
  scale : Int := 0
  /-- Whether a digit of the current part was dropped. -/
  full : Bool := false
  /-- The digits of the exponent. -/
  power : Nat := 0
  /-- Whether the exponent has a minus sign. -/
  powerNegative : Bool := false
  /-- Whether the exponent left the range of its word. -/
  powerFull : Bool := false

namespace NumberText

/-- The literal after a first character, if a literal can start with it. -/
def ofChar? (c : Char) : Option NumberText :=
  if c = '-' then some { phase := .start, negative := true }
  else if c = '0' then some { phase := .zero }
  else if c.isDigit then some { phase := .whole, significand := c.toNat - 48 }
  else none

/-- The number of unsigned 64-bit words. -/
def wordRange : Nat := 18446744073709551616

/-- The number of non-negative signed 32-bit words. -/
def exponentRange : Nat := 2147483648

/-- Whether one more digit fits the significand. -/
def fits (t : NumberText) (d : Nat) : Bool := !t.full && t.significand * 10 + d < wordRange

/-- The literal with one more digit `d`, if the grammar takes a digit here. -/
def digit? (t : NumberText) (d : Nat) : Option NumberText :=
  match t.phase with
  | .start => some { t with phase := if d = 0 then .zero else .whole, significand := d }
  | .zero => none
  | .whole => some <|
    if t.fits d then { t with significand := t.significand * 10 + d }
    else { t with full := true, scale := t.scale + 1 }
  | .point | .fraction => some <|
    if t.fits d then
      { t with phase := .fraction, significand := t.significand * 10 + d, scale := t.scale - 1 }
    else { t with phase := .fraction, full := true }
  | .mark | .markSign | .power => some <|
    if !t.powerFull && t.power * 10 + d < exponentRange then
      { t with phase := .power, power := t.power * 10 + d }
    else { t with phase := .power, powerFull := true }

/-- Whether the literal may end here. -/
def complete (t : NumberText) : Bool :=
  t.phase matches .zero | .whole | .fraction | .power

/-- The literal with one more character, if the grammar takes it here. -/
def next? (t : NumberText) (c : Char) : Option NumberText :=
  if c.isDigit then t.digit? (c.toNat - 48)
  else match t.phase with
    | .zero | .whole =>
      if c = '.' then some { t with phase := .point, full := false }
      else if c = 'e' ∨ c = 'E' then some { t with phase := .mark }
      else none
    | .fraction => if c = 'e' ∨ c = 'E' then some { t with phase := .mark } else none
    | .mark =>
      if c = '+' then some { t with phase := .markSign }
      else if c = '-' then some { t with phase := .markSign, powerNegative := true }
      else none
    | .start | .point | .markSign | .power => none

/-- The binary64 number that the significand has under a power of ten. -/
def real? (t : NumberText) (exponent : Int) : Option Number :=
  (Binary64.ofDecimal t.negative t.significand exponent).map .real

/-- The number a complete literal names, or `none` if it is out of range. A literal without point
and exponent names a whole number if a signed or an unsigned 64-bit word holds it. Minus zero is not
one of these. -/
def value? (t : NumberText) : Option Number :=
  match t.phase with
  | .power =>
    if t.powerFull then
      if t.significand ≠ 0 ∧ !t.powerNegative then none
      else some (.real (.zero t.negative))
    else t.real? (if t.powerNegative then t.scale - t.power else t.scale + t.power)
  | .fraction => t.real? t.scale
  | _ =>
    if t.full then t.real? t.scale
    else if !t.negative then some (.whole t.significand)
    else if t.significand = 0 then some (.real (.zero true))
    else if 2 * t.significand ≤ wordRange then some (.whole (-t.significand))
    else t.real? 0

end NumberText

end Percentile
