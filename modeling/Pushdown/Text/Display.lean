import Pushdown.Text.DisplayData

/-!
# `Text.Display` — a text shown between quotes in a message

Quotes, backslashes and the common control characters are escaped with a backslash. Every other character
that could not be seen, or that would attach to the one before it, is written by its code point.

## Contents

* `hexDigits` — lower-case hexadecimal digits of a number.
* `shown` — the text between double quotes.
-/

namespace Pushdown.Text

/-- Hexadecimal digits in lower case, without leading zeros. -/
def hexDigits (n : Nat) : List Char := Nat.toDigits 16 n

/-- One character as it is shown. -/
def showChar (c : Char) : List Char :=
  if c = '\x00' then ['\\', '0']
  else if c = '\t' then ['\\', 't']
  else if c = '\r' then ['\\', 'r']
  else if c = '\n' then ['\\', 'n']
  else if c = '"' then ['\\', '"']
  else if c = '\\' then ['\\', '\\']
  else if inRanges extendingRanges c || inRanges unprintableRanges c then
    '\\' :: 'u' :: '\x7b' :: hexDigits c.toNat ++ ['\x7d']
  else [c]

/-- The text between double quotes, as messages show it. -/
def shown (s : String) : String :=
  String.ofList ('"' :: s.toList.flatMap showChar ++ ['"'])

end Pushdown.Text
