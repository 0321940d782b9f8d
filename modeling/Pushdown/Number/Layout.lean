import Pushdown.Number.Digits
import Pushdown.Number.Shortest

/-!
# `Number.Layout` — decimal numbers as text

## Contents

* `FloatStyle` — the decisions a format makes: where positional notation ends, whether an integral value keeps
  a fraction, and whether a positive exponent has a sign.
* `FloatStyle.format` — the text of a finite number in a style.
-/

namespace Pushdown

/-- How a format writes a number. -/
structure FloatStyle where
  /-- Written without an exponent, by the position of the decimal point: `1` in `2.5`, `0` in `0.25`. -/
  positional : Int → Bool
  /-- An integral value in positional notation keeps `.0`. -/
  keepsFraction : Bool
  /-- An exponent that is not negative is written with a plus sign. -/
  signsExponent : Bool
  /-- Which of two equally near decimals is written. -/
  tie : TieRule

/-- A number of zeros. -/
def zeros (n : Nat) : List Char := List.replicate n '0'

namespace Decimal

/-- Position of the decimal point, counted from the first digit. -/
def point (d : Decimal) : Int := (digitCount d.digits : Int) + d.exponent

/-- The number without an exponent. -/
def positionalChars (d : Decimal) (keepsFraction : Bool) : List Char :=
  let digits := Nat.toDigits 10 d.digits
  if d.point ≤ 0 then '0' :: '.' :: zeros (-d.point).toNat ++ digits
  else if 0 ≤ d.exponent then
    digits ++ zeros d.exponent.toNat ++ (if keepsFraction then ['.', '0'] else [])
  else digits.take d.point.toNat ++ '.' :: digits.drop d.point.toNat

/-- The number with one digit before the point and an exponent. -/
def scientificChars (d : Decimal) (signsExponent : Bool) : List Char :=
  match Nat.toDigits 10 d.digits with
  | [] => []
  | first :: rest =>
    first :: (if rest.isEmpty then [] else '.' :: rest) ++
      'e' :: (if signsExponent && 1 ≤ d.point then ['+'] else []) ++ intChars (d.point - 1)

end Decimal

namespace FloatStyle

/-- A finite number as text. -/
def chars (style : FloatStyle) (x : Binary64) : List Char :=
  let d := shortest style.tie x.magnitude
  (if x.isNegative then ['-'] else []) ++
    (if style.positional d.point then d.positionalChars style.keepsFraction
     else d.scientificChars style.signsExponent)

/-- A finite number as text. -/
def format (style : FloatStyle) (x : Binary64) : String := String.ofList (style.chars x)

end FloatStyle

end Pushdown
