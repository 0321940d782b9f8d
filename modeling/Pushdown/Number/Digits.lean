/-!
# `Number.Digits` — whole numbers in decimal digits

## Contents

* `intChars`, `intText` — an integer as text.
* `decimal?` — the number that digits stand for.
* `signedDecimal?` — the same, with a sign in front.
* `hexValue`, `digitsIn?`, `signedIn?` — digits of a base up to sixteen.
-/

namespace Pushdown

/-- An integer in decimal digits. -/
def intChars (i : Int) : List Char :=
  if i < 0 then '-' :: Nat.toDigits 10 i.natAbs else Nat.toDigits 10 i.natAbs

/-- An integer as text. -/
def intText (i : Int) : String := String.ofList (intChars i)

/-- A decimal digit of ASCII. -/
def isDigit (c : Char) : Bool := 0x30 ≤ c.toNat && c.toNat ≤ 0x39

/-- The value of a decimal digit. -/
def digitValue (c : Char) : Nat := c.toNat - 0x30

/-- The number that decimal digits stand for, behind a number already read. -/
def decimalFrom (n : Nat) (cs : List Char) : Nat := cs.foldl (fun m c => m * 10 + digitValue c) n

/-- The number that one or more decimal digits stand for. -/
def decimal? (cs : List Char) : Option Nat :=
  if !cs.isEmpty && cs.all isDigit then some (decimalFrom 0 cs) else none

/-- An integer: digits, with at most one sign in front. -/
def signedDecimal? : List Char → Option Int
  | '-' :: rest => (decimal? rest).map fun n => -(n : Int)
  | '+' :: rest => (decimal? rest).map Int.ofNat
  | cs => (decimal? cs).map Int.ofNat

/-! ## Other bases -/

/-- Value of a hexadecimal digit. -/
def hexValue (c : Char) : Option Nat :=
  let n := c.toNat
  if 0x30 ≤ n && n ≤ 0x39 then some (n - 0x30)
  else if 0x41 ≤ n && n ≤ 0x46 then some (n - 0x41 + 10)
  else if 0x61 ≤ n && n ≤ 0x66 then some (n - 0x61 + 10)
  else none

/-- The number that one or more digits of a base stand for. -/
def digitsIn? (base : Nat) (cs : List Char) : Option Nat := do
  let values ← cs.mapM hexValue
  if !values.isEmpty && values.all (· < base) then
    return values.foldl (fun n d => n * base + d) 0
  else none

/-- An integer in a base: digits, with at most one sign in front. -/
def signedIn? (base : Nat) : List Char → Option Int
  | '-' :: rest => (digitsIn? base rest).map fun n => -(n : Int)
  | '+' :: rest => (digitsIn? base rest).map Int.ofNat
  | cs => (digitsIn? base cs).map Int.ofNat

end Pushdown
