import Percentile.Binary64.Shortest
import Percentile.Json.Basic

/-!
# JSON text

The text of a JSON value has no white space. Strings escape what they must and nothing else. A
binary64 number is written with the fewest digits that name it and always with a point or an
exponent, so that it cannot be taken for a whole number.
-/

namespace Percentile

/-- How the text of a binary64 number is laid out. -/
structure RealLayout where
  /-- The most digits that stand before the point without an exponent. -/
  mostWhole : Nat
  /-- The most zeros that stand behind the point before the first digit without an exponent. -/
  mostZeros : Nat

namespace RealLayout

/-- Numbers from `1e-5` up to `1e16` are written without an exponent. -/
def json : RealLayout := ⟨16, 4⟩

/-- The text of a magnitude. -/
def magnitude (layout : RealLayout) (d : Decimal) : List Char :=
  let digits := Nat.toDigits 10 d.digits
  let count := digits.length
  -- where the point stands, counted from before the first digit
  let point : Int := count + d.exponent
  let zeros (n : Int) : List Char := List.replicate n.toNat '0'
  if 0 ≤ d.exponent ∧ point ≤ layout.mostWhole then digits ++ zeros d.exponent ++ ['.', '0']
  else if 0 < point ∧ point ≤ layout.mostWhole then
    digits.take point.toNat ++ '.' :: digits.drop point.toNat
  else if point ≤ 0 ∧ -point ≤ layout.mostZeros then ['0', '.'] ++ zeros (-point) ++ digits
  else
    let exponent := 'e' :: (toString (point - 1)).toList
    match digits with
    | [d] => d :: exponent
    | d :: rest => d :: '.' :: rest ++ exponent
    | [] => exponent

/-- The text of a binary64 number. -/
def write (layout : RealLayout) (x : Binary64) : String :=
  let text := if x.isZero then ['0', '.', '0'] else layout.magnitude x.shortest
  String.ofList (if x.negative then '-' :: text else text)

end RealLayout

namespace Json

/-- A character inside a string. -/
def escapedChar (c : Char) : List Char :=
  if c = '"' then ['\\', '"']
  else if c = '\\' then ['\\', '\\']
  else if c.toNat = 8 then ['\\', 'b']
  else if c.toNat = 12 then ['\\', 'f']
  else if c = '\n' then ['\\', 'n']
  else if c = '\r' then ['\\', 'r']
  else if c = '\t' then ['\\', 't']
  else if c.toNat < 32 then
    ['\\', 'u', '0', '0', Nat.digitChar (c.toNat / 16), Nat.digitChar (c.toNat % 16)]
  else [c]

/-- Append a string literal to a text. -/
def renderString (out s : String) : String :=
  (s.toList.foldl (fun out c => (escapedChar c).foldl String.push out) (out.push '"')).push '"'

mutual

/-- Append the text of a value to a text. -/
def renderOnto (out : String) : Json → String
  | .null => out ++ "null"
  | .bool b => out ++ if b then "true" else "false"
  | .number (.whole n) => out ++ toString n
  | .number (.real x) => out ++ RealLayout.json.write x
  | .string s => renderString out s
  | .array [] => out ++ "[]"
  | .array (item :: rest) => (renderItems (renderOnto (out.push '[') item) rest).push ']'
  | .object [] => (out.push '\x7b').push '\x7d'
  | .object ((key, value) :: rest) =>
    let first := renderOnto ((renderString (out.push '\x7b') key).push ':') value
    (renderFields first rest).push '\x7d'

/-- Append the items after the first to a text. -/
def renderItems (out : String) : List Json → String
  | [] => out
  | item :: rest => renderItems (renderOnto (out.push ',') item) rest

/-- Append the fields after the first to a text. -/
def renderFields (out : String) : List (String × Json) → String
  | [] => out
  | (key, value) :: rest =>
    renderFields (renderOnto ((renderString (out.push ',') key).push ':') value) rest

end

/-- The text of a value. -/
def render (j : Json) : String := renderOnto "" j

end Json

end Percentile
