import Percentile.Json.Literal

/-!
# JSON tokens

JSON text is cut into tokens by a machine that takes one character at a time, `Scanner.step`. A
character that belongs to no token ends the list with the token `stray`, and nothing after it is
read.

Two kinds of token can be grammatical and still name nothing, which matters only where the value is
read and not skipped: a number beyond the binary64 range, and a string with an escape that is one
half of a surrogate pair.
-/

namespace Percentile

/-- A token of JSON text. -/
inductive Token where
  | openArray
  | closeArray
  | openObject
  | closeObject
  | comma
  | colon
  | null
  | bool (b : Bool)
  /-- A number literal with the number it names. -/
  | number (n : Option Number)
  /-- A string literal with the text it names. -/
  | string (s : Option String)
  /-- A place where no token stands. -/
  | stray

/-- What has been read of the token at hand. Text is kept backwards, as numbers of characters and of
UTF-16 units. -/
inductive Scanner where
  /-- Between two tokens. -/
  | idle
  /-- Inside a word, with what is left of it. -/
  | word (rest : List Char) (token : Token)
  /-- Inside a number literal. -/
  | number (t : NumberText)
  /-- Inside a string literal. -/
  | string (units : List Nat)
  /-- After a backslash. -/
  | escape (units : List Nat)
  /-- Inside an escape that names a UTF-16 unit, with the number of its digits left. -/
  | unit (left : Nat) (value : Nat) (units : List Nat)
  /-- After a stray character. -/
  | stopped

namespace Scanner

/-- Whether a UTF-16 unit is the first half of a surrogate pair. -/
def isHighSurrogate (n : Nat) : Bool := 0xD800 ≤ n && n < 0xDC00

/-- Whether a UTF-16 unit is the second half of a surrogate pair. -/
def isLowSurrogate (n : Nat) : Bool := 0xDC00 ≤ n && n < 0xE000

/-- The text of a string literal, or `none` if half of a surrogate pair stands alone. -/
def decodeUnits : List Nat → Option (List Char)
  | [] => some []
  | [n] => if isHighSurrogate n || isLowSurrogate n then none else some [Char.ofNat n]
  | n :: m :: rest =>
    if isHighSurrogate n then
      if isLowSurrogate m then
        (decodeUnits rest).map (Char.ofNat (0x10000 + (n - 0xD800) * 0x400 + (m - 0xDC00)) :: ·)
      else none
    else if isLowSurrogate n then none
    else (decodeUnits (m :: rest)).map (Char.ofNat n :: ·)

/-- The value of a hexadecimal digit. -/
def hexDigit? (c : Char) : Option Nat :=
  if c.isDigit then some (c.toNat - 48)
  else if 'a' ≤ c ∧ c ≤ 'f' then some (c.toNat - 87)
  else if 'A' ≤ c ∧ c ≤ 'F' then some (c.toNat - 55)
  else none

/-- The character that a one-letter escape names. -/
def simpleEscape? : Char → Option Nat
  | '"' => some 34
  | '\\' => some 92
  | '/' => some 47
  | 'b' => some 8
  | 'f' => some 12
  | 'n' => some 10
  | 'r' => some 13
  | 't' => some 9
  | _ => none

/-- Take a character between two tokens. -/
def start (c : Char) : List Token × Scanner :=
  match c with
  | ' ' | '\n' | '\t' | '\r' => ([], .idle)
  | '[' => ([.openArray], .idle)
  | ']' => ([.closeArray], .idle)
  | '\x7b' => ([.openObject], .idle)
  | '\x7d' => ([.closeObject], .idle)
  | ',' => ([.comma], .idle)
  | ':' => ([.colon], .idle)
  | '"' => ([], .string [])
  | 'n' => ([], .word ['u', 'l', 'l'] .null)
  | 't' => ([], .word ['r', 'u', 'e'] (.bool true))
  | 'f' => ([], .word ['a', 'l', 's', 'e'] (.bool false))
  | c =>
    match NumberText.ofChar? c with
    | some t => ([], .number t)
    | none => ([.stray], .stopped)

/-- Take one character: the tokens it completes, and the machine after it. -/
def step (s : Scanner) (c : Char) : List Token × Scanner :=
  match s with
  | .idle => start c
  | .word [last] token => if c = last then ([token], .idle) else ([.stray], .stopped)
  | .word (d :: rest) token => if c = d then ([], .word rest token) else ([.stray], .stopped)
  | .word [] _ => ([.stray], .stopped)
  | .number t =>
    match t.next? c with
    | some t => ([], .number t)
    | none =>
      -- a digit that the literal does not take is a digit after a leading zero
      if t.complete && !c.isDigit then
        let (tokens, s) := start c
        (.number t.value? :: tokens, s)
      else ([.stray], .stopped)
  | .string units =>
    if c = '"' then ([.string ((decodeUnits units.reverse).map String.ofList)], .idle)
    else if c = '\\' then ([], .escape units)
    else if c.toNat < 32 then ([.stray], .stopped)
    else ([], .string (c.toNat :: units))
  | .escape units =>
    if c = 'u' then ([], .unit 4 0 units)
    else match simpleEscape? c with
      | some n => ([], .string (n :: units))
      | none => ([.stray], .stopped)
  | .unit left value units =>
    match hexDigit? c with
    | some d =>
      let value := value * 16 + d
      if left ≤ 1 then ([], .string (value :: units)) else ([], .unit (left - 1) value units)
    | none => ([.stray], .stopped)
  | .stopped => ([], .stopped)

/-- The tokens that the end of the text completes. -/
def finish : Scanner → List Token
  | .idle | .stopped => []
  | .number t => if t.complete then [.number t.value?] else [.stray]
  | .word .. | .string .. | .escape .. | .unit .. => [.stray]

end Scanner

def Token.scan (text : String) : List Token :=
  let (tokens, s) := text.toList.foldl
    (fun (acc : List Token × Scanner) c =>
      let (tokens, s) := acc.2.step c
      (tokens.reverse ++ acc.1, s))
    ([], .idle)
  tokens.reverse ++ s.finish

end Percentile
