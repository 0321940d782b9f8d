import Pushdown.Json.Buffer
import Pushdown.Number.Decimal

/-!
# `PropertyFile.Setting` — what a property file says under a key

Options are texts. A file may also hold numbers and truth values, which stand for their text, and values that
have no text at all.

## Contents

* `Setting` — a text, or a value that has none.
* `Setting.ofBool`, `Setting.ofInt`, `Setting.ofDouble` — truth values and numbers.
* `Setting.ofJson` — a JSON value.
-/

namespace Pushdown

/-- What a property file says under a key. -/
inductive Setting
  | text (s : String)
  /-- A missing value, a list or a table. -/
  | nested
deriving DecidableEq, Repr

namespace Setting

/-- A truth value. -/
def ofBool (b : Bool) : Setting := .text (if b then "true" else "false")

/-- A whole number. -/
def ofInt (i : Int) : Setting := .text (intText i)

/-- Doubles are written positionally, and an integral one without a fraction. -/
def doubleStyle : FloatStyle := ⟨fun _ => true, false, false, .up⟩

/-- A double. -/
def ofDouble (x : Binary64) : Setting :=
  .text
    (if x.isFinite then doubleStyle.format x
      else if x.isNaN then "NaN"
      else if x.isNegative then "-inf" else "inf")

/-- The integer fits in 64 bits. -/
def isWord (i : Int) : Bool := -(twoPow 63 : Int) ≤ i && i < twoPow 63

/-- A JSON value. An integer beyond 64 bits with a sign counts as a double. -/
def ofJson : Json → Setting
  | .string s => .text s
  | .bool b => ofBool b
  | .int i => if isWord i then ofInt i else ofDouble (.ofMagnitude (decide (i < 0)) (decimalBits i.natAbs 0))
  | .float x => ofDouble x
  | .null | .array _ | .object _ => .nested

end Setting

end Pushdown
