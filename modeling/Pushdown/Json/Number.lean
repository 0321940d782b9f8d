import Pushdown.Json.Reader

/-!
# `Json.Number` — numbers in a JSON text

A number without fraction and exponent is an integer as long as it fits in 64 bits; `-0` and larger ones are
doubles. A double is made from at most nineteen or twenty leading digits, as the product or the quotient of
two doubles: the digits and a power of ten. That is not always the double nearest to the written decimal.

## Contents

* `Numeral` — an integer or a double.
* `number` — a number in a text, its sign consumed.
* `skipNumber` — a number that nobody reads.
-/

namespace Pushdown.Json

/-- A number as it was written: an integer or a double. -/
inductive Numeral
  | integer (i : Int)
  | float (x : Binary64)
deriving DecidableEq, Repr

namespace Numeral

/-- What a message calls the number. -/
def found : Numeral → Found
  | .integer i => .integer i
  | .float x => .float x

/-- The number as a value. -/
def toJson : Numeral → Json
  | .integer i => .int i
  | .float x => .float x

end Numeral

/-- The largest integer that fits in 64 bits. -/
def maxSignificand : Nat := twoPow 64 - 1

/-- Appends digits to a significand as long as it fits; also tells how many were appended. -/
def absorb : Nat → List Nat → Nat × Nat
  | s, [] => (s, 0)
  | s, d :: ds =>
    if s * 10 + d ≤ maxSignificand then
      let (t, n) := absorb (s * 10 + d) ds
      (t, n + 1)
    else (s, 0)

/-- The double nearest to a power of ten. -/
def powerBits (n : Nat) : Nat := Binary64.nearest (tenPow n) 1

/-- Scales magnitude bits by a power of ten, in steps that a double can hold; `none` beyond the largest
double. Three steps reach zero from every significand. -/
def scaleTen : Nat → Nat → Int → Option Nat
  | 0, m, _ => some m
  | steps + 1, m, e =>
    if e.natAbs ≤ 308 then
      if 0 ≤ e then
        let product := Binary64.mulMagnitude m (powerBits e.natAbs)
        if product < Binary64.infinityBits then some product else none
      else some (Binary64.divMagnitude m (powerBits e.natAbs))
    else if m = 0 then some 0
    else if 0 ≤ e then none
    else scaleTen steps (Binary64.divMagnitude m (powerBits 308)) (e + 308)

namespace Reader

/-- The next character is a digit. -/
def peeksDigit : Reader Bool := do
  match ← peek with
  | none => pure false
  | some c => pure (isDigit c)

/-- The next character begins an exponent. -/
def peeksExponent : Reader Bool := do
  match ← peek with
  | none => pure false
  | some c => pure (c = 'e' || c = 'E')

/-- Consumes the digits at the head of the text. -/
def digits : Reader (List Nat) := fun c =>
  let ds := c.rest.takeWhile isDigit
  (.ok (ds.map digitValue),
    { c with rest := c.rest.dropWhile isDigit,
             position := ⟨c.position.line, c.position.column + ds.length⟩ })

/-- The double `± significand * 10 ^ e`. -/
def double (negative : Bool) (significand : Nat) (e : Int) : Reader Binary64 :=
  match scaleTen 4 (Binary64.nearest significand 1) e with
  | some m => pure (Binary64.ofMagnitude negative m)
  | none => fail .numberOutOfRange

/-- The largest exponent that is read digit by digit. -/
def maxExponent : Nat := twoPow 31 - 1

/-- Digits of an exponent: `none` as soon as it is out of range. -/
def exponentLoop : Nat → Nat → Reader (Option Nat)
  | 0, e => pure (some e)
  | fuel + 1, e => do
    match ← peek with
    | none => pure (some e)
    | some c =>
      if isDigit c then
        eat
        if e * 10 + digitValue c ≤ maxExponent then exponentLoop fuel (e * 10 + digitValue c)
        else pure none
      else pure (some e)

/-- A sign in front of an exponent. -/
def exponentSign : Reader Bool := do
  match ← peek with
  | some '+' =>
    eat
    pure false
  | some '-' =>
    eat
    pure true
  | _ => pure false

/-- The exponent of a double, its letter not yet consumed. -/
def exponent (negative : Bool) (significand : Nat) (before : Int) : Reader Binary64 := do
  eat
  let down ← exponentSign
  match ← peek with
  | none => fail .endInValue
  | some c =>
    if isDigit c then
      eat
      let n ← remaining
      match ← exponentLoop n (digitValue c) with
      | some e => double negative significand (if down then before - e else before + e)
      | none =>
        if significand ≠ 0 && !down then fail .numberOutOfRange
        else
          let _ ← digits
          pure (Binary64.ofMagnitude negative 0)
    else failPeek .invalidNumber

/-- The fraction of a double, its point not yet consumed. -/
def fraction (negative : Bool) (significand : Nat) (before : Int) : Reader Binary64 := do
  eat
  let ds ← digits
  if ds.isEmpty then
    match ← peek with
    | some _ => failPeek .invalidNumber
    | none => failPeek .endInValue
  else
    let (s, n) := absorb significand ds
    if ← peeksExponent then exponent negative s (before - n)
    else double negative s (before - n)

/-- What follows the leading digits of a number. -/
def numberTail (negative : Bool) (significand : Nat) (dropped : Nat) : Reader Numeral := do
  match ← peek with
  | some '.' => return .float (← fraction negative significand dropped)
  | _ =>
    if ← peeksExponent then return .float (← exponent negative significand dropped)
    else if 0 < dropped then return .float (← double negative significand dropped)
    else if !negative then return .integer significand
    else if 0 < significand && significand ≤ twoPow 63 then return .integer (-(significand : Int))
    else return .float (Binary64.ofMagnitude true (Binary64.nearest significand 1))

/-- A number, its sign consumed. -/
def number (negative : Bool) : Reader Numeral := do
  match ← peek with
  | none => fail .endInValue
  | some c =>
    if c = '0' then
      eat
      if ← peeksDigit then failPeek .invalidNumber
      else numberTail negative 0 0
    else if isDigit c then
      let ds ← digits
      let (s, n) := absorb 0 ds
      numberTail negative s (ds.length - n)
    else failPeek .invalidNumber

/-- Passes over an exponent. -/
def skipExponent : Reader Unit := do
  eat
  let _ ← exponentSign
  if ← peeksDigit then
    let _ ← digits
    pure ()
  else failPeek .invalidNumber

/-- Passes over a number that nobody reads, its sign consumed. -/
def skipNumber : Reader Unit := do
  match ← peek with
  | some '0' =>
    eat
    if ← peeksDigit then failPeek .invalidNumber
    else skipNumberTail
  | _ =>
    if ← peeksDigit then
      let _ ← digits
      skipNumberTail
    else failPeek .invalidNumber
where
  /-- What follows the leading digits. -/
  skipNumberTail : Reader Unit := do
    match ← peek with
    | some '.' =>
      eat
      let ds ← digits
      if ds.isEmpty then failPeek .invalidNumber
      else if ← peeksExponent then skipExponent
      else pure ()
    | _ => if ← peeksExponent then skipExponent else pure ()

end Reader

end Pushdown.Json
