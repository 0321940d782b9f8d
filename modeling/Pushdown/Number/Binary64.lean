import Pushdown.Number.Power

/-!
# `Number.Binary64` — double-precision numbers by their bits

A number is its 64 bits; its magnitude is `significand * 2 ^ exponent`, computed exactly. Rounding a
fraction to the nearest number is exact arithmetic on naturals, so that reading a decimal can be reasoned
about.

## Contents

* `Binary64` — the bits, their fields, and the exact magnitude.
* `nearest` — the magnitude bits nearest to a fraction, a half to the even neighbour.
-/

namespace Pushdown

/-- A double-precision number, given by its bits. -/
structure Binary64 where
  bits : UInt64
deriving DecidableEq, Repr

namespace Binary64

/-- Bits of the magnitude: all but the sign. -/
def magnitude (x : Binary64) : Nat := x.bits.toNat % twoPow 63

/-- The sign bit is set. -/
def isNegative (x : Binary64) : Bool := x.bits.toNat / twoPow 63 == 1

/-- Bits of the magnitude infinity. -/
def infinityBits : Nat := 2047 * twoPow 52

/-- Neither infinite nor a NaN. -/
def isFinite (x : Binary64) : Bool := x.magnitude < infinityBits

/-- Not a number. -/
def isNaN (x : Binary64) : Bool := infinityBits < x.magnitude

/-- The number with these magnitude bits and this sign. -/
def ofMagnitude (negative : Bool) (magnitude : Nat) : Binary64 :=
  ⟨UInt64.ofNat (magnitude + if negative then twoPow 63 else 0)⟩

/-- Biased exponent of magnitude bits. -/
def biased (magnitude : Nat) : Nat := magnitude / twoPow 52

/-- Integer significand of finite magnitude bits. -/
def significand (magnitude : Nat) : Nat :=
  if biased magnitude = 0 then magnitude else twoPow 52 + magnitude % twoPow 52

/-- Power of two that scales the significand of finite magnitude bits. -/
def exponent (magnitude : Nat) : Int :=
  if biased magnitude = 0 then -1074 else (biased magnitude : Int) - 1075

end Binary64

/-- `n * 2 ^ e` as a numerator and a denominator. -/
def scaleTwo (n : Nat) (e : Int) : Nat × Nat :=
  if 0 ≤ e then (n * twoPow e.toNat, 1) else (n, twoPow (-e).toNat)

/-- The quotient rounded to the nearest natural, a half to the even neighbour. -/
def divNearest (num den : Nat) : Nat :=
  let floor := num / den
  let rest := num % den
  if 2 * rest < den then floor
  else if den < 2 * rest then floor + 1
  else floor + floor % 2

namespace Binary64

/-- The largest `e` with `2 ^ e ≤ num / den`, for a positive fraction. -/
def floorLogTwo (num den : Nat) : Int :=
  let guess : Int := (num.log2 : Int) - den.log2
  let (p, q) := scaleTwo den guess
  if num * q < p then guess - 1 else guess

/-- Magnitude bits of the number nearest to `num / den`, a half to the even neighbour; beyond the largest
finite number the bits of infinity. -/
def nearest (num den : Nat) : Nat :=
  if num = 0 then 0
  else
    let unit := max (floorLogTwo num den - 52) (-1074)
    let (p, q) := scaleTwo den unit
    min infinityBits ((unit + 1074).toNat * twoPow 52 + divNearest (num * q) p)

/-- The exact magnitude as a numerator and a denominator. -/
def fraction (magnitude : Nat) : Nat × Nat :=
  scaleTwo (significand magnitude) (exponent magnitude)

/-- Product of two magnitudes, rounded. -/
def mulMagnitude (a b : Nat) : Nat :=
  nearest ((fraction a).1 * (fraction b).1) ((fraction a).2 * (fraction b).2)

/-- Quotient of two magnitudes, rounded. -/
def divMagnitude (a b : Nat) : Nat :=
  nearest ((fraction a).1 * (fraction b).2) ((fraction a).2 * (fraction b).1)

end Binary64

end Pushdown
