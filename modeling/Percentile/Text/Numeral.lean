/-!
# Numerals

A *numeral* is an optional sign followed by one or more of the ten ASCII digits. Its value is an
integer of any size.
-/

namespace Percentile.Text

/-- The value of a decimal digit. -/
def digit? (c : Char) : Option Nat := if c.isDigit then some (c.toNat - 48) else none

/-- The number whose decimal digits, after those of `acc`, are the given characters. -/
def digitsFrom (acc : Nat) : List Char → Option Nat
  | [] => some acc
  | c :: cs => (digit? c).bind fun d => digitsFrom (acc * 10 + d) cs

/-- The number of one or more digits. -/
def natural? : List Char → Option Nat
  | [] => none
  | cs => digitsFrom 0 cs

/-- The integer of a numeral. -/
def integer? : List Char → Option Int
  | '+' :: cs => (natural? cs).map fun n : Nat => (n : Int)
  | '-' :: cs => (natural? cs).map fun n : Nat => -(n : Int)
  | cs => (natural? cs).map fun n : Nat => (n : Int)

end Percentile.Text
