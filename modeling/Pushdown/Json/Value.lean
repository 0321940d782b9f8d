import Pushdown.Number.Layout
import Pushdown.Text.Display

/-!
# `Json.Value` — JSON values and their compact text

Members keep the order in which they were given, so that the text of a value is fixed. Quotes, backslashes
and control characters are escaped; every other character stands for itself.

## Contents

* `Json` — the value type.
* `Json.render` — its text without blanks.
-/

namespace Pushdown

/-- A JSON value. -/
inductive Json where
  | null
  | bool (b : Bool)
  | int (i : Int)
  | float (x : Binary64)
  | string (s : String)
  | array (items : List Json)
  | object (members : List (String × Json))
deriving Repr, Inhabited

namespace Json

/-- Numbers with a fraction: an exponent, always with its sign, above sixteen digits before the point and from
the fifth zero behind it on. -/
def floatStyle : FloatStyle :=
  { positional := fun p => -4 ≤ p && p ≤ 16, keepsFraction := true, signsExponent := true, tie := .even }

/-- One character of a string. -/
def escapeChar (c : Char) : List Char :=
  if c = '"' then ['\\', '"']
  else if c = '\\' then ['\\', '\\']
  else if c = '\x08' then ['\\', 'b']
  else if c = '\t' then ['\\', 't']
  else if c = '\n' then ['\\', 'n']
  else if c = '\x0c' then ['\\', 'f']
  else if c = '\r' then ['\\', 'r']
  else if c.toNat < 0x20 then
    ['\\', 'u', '0', '0', Nat.digitChar (c.toNat / 16), Nat.digitChar (c.toNat % 16)]
  else [c]

/-- A string between its quotes. -/
def stringChars (s : String) : List Char :=
  '"' :: s.toList.flatMap escapeChar ++ ['"']

mutual

/-- The text of a value. -/
def chars : Json → List Char
  | .null => "null".toList
  | .bool b => if b then "true".toList else "false".toList
  | .int i => intChars i
  | .float x => floatStyle.chars x
  | .string s => stringChars s
  | .array items => '[' :: itemsChars items ++ [']']
  | .object members => '\x7b' :: membersChars members ++ ['\x7d']

/-- The items of an array, separated by commas. -/
def itemsChars : List Json → List Char
  | [] => []
  | [v] => chars v
  | v :: w :: r => chars v ++ ',' :: itemsChars (w :: r)

/-- The members of an object, separated by commas. -/
def membersChars : List (String × Json) → List Char
  | [] => []
  | [(k, v)] => stringChars k ++ ':' :: chars v
  | (k, v) :: m :: r => stringChars k ++ ':' :: chars v ++ ',' :: membersChars (m :: r)

end

/-- The text of a value. -/
def render (j : Json) : String := String.ofList j.chars

/-- A text or `null`. -/
def ofOption : Option String → Json
  | some s => .string s
  | none => .null

/-- An array of texts. -/
def ofTexts (ss : List String) : Json := .array (ss.map .string)

end Json

end Pushdown
