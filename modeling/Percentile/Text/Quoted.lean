import Percentile.Text.Hidden

/-!
# Quoted text

How an error message shows a text: between quotes, on one line, with nothing in it that cannot be
seen. The quote and the backslash follow a backslash. Tab, line feed, carriage return and NUL have
one-letter escapes, every other hidden character is shown by its number in hexadecimal, and all else
stands for itself.
-/

namespace Percentile.Text

/-- The lower-case hexadecimal digits of a number. -/
def hexadecimal (n : Nat) : List Char := Nat.toDigits 16 n

/-- A character as quoted text shows it. -/
def quotedChar (c : Char) : List Char :=
  if c = '"' then ['\\', '"']
  else if c = '\\' then ['\\', '\\']
  else if c = '\t' then ['\\', 't']
  else if c = '\n' then ['\\', 'n']
  else if c = '\r' then ['\\', 'r']
  else if c.toNat = 0 then ['\\', '0']
  else if isHidden c then ['\\', 'u', '\x7b'] ++ hexadecimal c.toNat ++ ['\x7d']
  else [c]

/-- A text as an error message shows it. -/
def quoted (s : String) : String := String.ofList ('"' :: s.toList.flatMap quotedChar ++ ['"'])

end Percentile.Text
