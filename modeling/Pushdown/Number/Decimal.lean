import Pushdown.Number.Digits
import Pushdown.Number.Shortest
import Pushdown.Text.Ascii

/-!
# `Number.Decimal` — reading a double from decimal text

## Contents

* `decimalBits` — the magnitude nearest to digits and a power of ten.
* `readDouble?` — a double with sign, fraction and exponent, or one of the names for what is not finite.
-/

namespace Pushdown

/-- Magnitude bits nearest to `digits * 10 ^ exponent`. Beyond 310 places before the point it is infinite, and
beyond 330 places behind it zero. -/
def decimalBits (digits : Nat) (exponent : Int) : Nat :=
  let point := (digitCount digits : Int) + exponent
  if digits = 0 then 0
  else if 310 < point then Binary64.infinityBits
  else if point < -330 then 0
  else if 0 ≤ exponent then Binary64.nearest (digits * tenPow exponent.toNat) 1
  else Binary64.nearest digits (tenPow (-exponent).toNat)

/-- What follows the digits of a number: nothing, or `e` and an integer. -/
def exponent? : List Char → Option Int
  | [] => some 0
  | c :: rest => if c = 'e' then signedDecimal? rest else none

/-- Magnitude bits of a number without a sign, its letters in lower case. -/
def magnitude? (cs : List Char) : Option Nat :=
  if cs = "inf".toList || cs = "infinity".toList then some Binary64.infinityBits
  else if cs = "nan".toList then some (Binary64.infinityBits + twoPow 51)
  else
    let whole := cs.takeWhile isDigit
    let (fraction, rest) := match cs.dropWhile isDigit with
      | '.' :: r => (r.takeWhile isDigit, r.dropWhile isDigit)
      | r => ([], r)
    match decimal? (whole ++ fraction), exponent? rest with
    | some digits, some e => some (decimalBits digits (e - fraction.length))
    | _, _ => none

/-- The double that a text stands for. -/
def readDouble? (s : String) : Option Binary64 :=
  match (Text.asciiLower s).toList with
  | '-' :: rest => (magnitude? rest).map (Binary64.ofMagnitude true)
  | '+' :: rest => (magnitude? rest).map (Binary64.ofMagnitude false)
  | rest => (magnitude? rest).map (Binary64.ofMagnitude false)

end Pushdown
