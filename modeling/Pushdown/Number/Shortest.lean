import Pushdown.Number.Binary64

/-!
# `Number.Shortest` — the fewest decimal digits that read back as the same number

The reals that round to a number form an interval around it. On the grid of decimals with one significant
digit, then two, and so on, only the two grid points next to the number can be the nearest ones inside that
interval; the first grid with a hit gives the digits.

## Contents

* `Decimal` — digits and a power of ten.
* `Interval` — a number with the reals that round to it, over one denominator.
* `shortest` — the digits of a positive magnitude.
-/

namespace Pushdown

/-- The number `digits * 10 ^ exponent`. -/
structure Decimal where
  digits : Nat
  exponent : Int
deriving DecidableEq, Repr

/-- Which of two equally near decimals is taken. -/
inductive TieRule
  /-- The larger one. -/
  | up
  /-- The one with the even last digit. -/
  | even
deriving DecidableEq, Repr

/-- A magnitude with the ends of its rounding interval, all three over the denominator `unit`. -/
structure Interval where
  low : Nat
  value : Nat
  high : Nat
  unit : Nat
  /-- The ends themselves round to the number. -/
  closed : Bool
deriving Repr

namespace Interval

/-- The interval around finite positive magnitude bits. The gap below a power of two is half as wide as the
gap above it. -/
def ofMagnitude (magnitude : Nat) : Interval :=
  let m := Binary64.significand magnitude
  let below := if magnitude % twoPow 52 = 0 && 1 < Binary64.biased magnitude then 1 else 2
  let (factor, unit) := scaleTwo 1 (Binary64.exponent magnitude - 2)
  { low := (4 * m - below) * factor, value := 4 * m * factor, high := (4 * m + 2) * factor,
    unit, closed := m % 2 == 0 }

/-- `num / den` lies in the interval. -/
def contains (i : Interval) (num den : Nat) : Bool :=
  if i.closed then i.low * den ≤ num * i.unit && num * i.unit ≤ i.high * den
  else i.low * den < num * i.unit && num * i.unit < i.high * den

end Interval

/-- Number of decimal digits of a natural, one for zero. -/
def digitCount (n : Nat) : Nat := (Nat.toDigits 10 n).length

/-- The largest `e` with `10 ^ e ≤ num / den`, for a positive fraction. -/
def floorLogTen (num den : Nat) : Int :=
  if den ≤ num then (digitCount (num / den) : Int) - 1
  else -(digitCount ((den + num - 1) / num - 1) : Int)

/-- `10 ^ e` as a numerator and a denominator. -/
def powerOfTen (e : Int) : Nat × Nat :=
  if 0 ≤ e then (tenPow e.toNat, 1) else (1, tenPow (-e).toNat)

namespace Decimal

/-- The same number without zeros at the end of its digits; `fuel` bounds how many are removed. -/
def stripZeros : Nat → Decimal → Decimal
  | 0, d => d
  | fuel + 1, d =>
    if d.digits ≠ 0 && d.digits % 10 == 0 then stripZeros fuel ⟨d.digits / 10, d.exponent + 1⟩ else d

end Decimal

namespace Interval

/-- The point of the grid `10 ^ e` that is nearest to the number among those inside the interval. -/
def nearestOnGrid (i : Interval) (tie : TieRule) (e : Int) : Option Decimal :=
  let (p, q) := powerOfTen e
  let floor := i.value * q / (i.unit * p)
  let rest := i.value * q % (i.unit * p)
  let lower := i.contains (floor * p) q
  let upper := i.contains ((floor + 1) * p) q
  let takesUpper :=
    upper && (!lower || i.unit * p < 2 * rest ||
      (2 * rest == i.unit * p && (tie == .up || floor % 2 == 1)))
  if takesUpper then some ⟨floor + 1, e⟩
  else if lower then some ⟨floor, e⟩
  else none

end Interval

/-- The shortest decimal that rounds to finite magnitude bits, the nearest one if there are several. -/
def shortest (tie : TieRule) (magnitude : Nat) : Decimal :=
  if magnitude = 0 then ⟨0, 0⟩
  else
    let i := Interval.ofMagnitude magnitude
    let top := floorLogTen i.value i.unit
    let hit := (List.range 17).findSome? fun (n : Nat) => i.nearestOnGrid tie (top - n)
    (hit.getD ⟨i.value / i.unit, 0⟩).stripZeros 17

end Pushdown
