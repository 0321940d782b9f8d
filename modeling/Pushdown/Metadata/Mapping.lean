import Pushdown.Metadata.Type
import Pushdown.Metadata.Remote

/-!
# `Metadata.Mapping` — the canonical type of a remote type

Every remote type has a canonical one: what is not recognised becomes text of any length.

## Contents

* `RemoteType.integer` — an integer type.
* `RemoteType.decimal` — an exact number, or a double if it does not fit.
* `RemoteType.standard` — the mapping of the standard type codes.
-/

namespace Pushdown

namespace RemoteType

/-- An integer type with the reported precision, or `precision` if that is not usable. -/
def integer (t : RemoteType) (precision : UInt32) : CanonicalType :=
  match word? t.size with
  | some p => .exactNumeric (if 1 ≤ p ∧ p ≤ maxPrecision then p else precision) 0
  | none => .exactNumeric precision 0

/-- An exact number with the reported precision and scale, or a double if that is not usable. -/
def decimal (t : RemoteType) : CanonicalType :=
  let scale := (word? t.scale).getD 0
  match word? t.size with
  | some p => if 1 ≤ p ∧ p ≤ maxPrecision ∧ scale ≤ p then .exactNumeric p scale else .double
  | none => .double

/-- The canonical type by the standard type codes. -/
def standard (t : RemoteType) : CanonicalType :=
  match t.typeCode with
  | .boolean => .boolean
  | .bit => if t.size ≤ 1 then .boolean else .varchar t.size
  | .tinyInt => t.integer 3
  | .smallInt => t.integer 5
  | .integer => t.integer 10
  | .bigInt => t.integer 19
  | .decimal | .numeric => t.decimal
  | .real | .float | .double => .double
  | .char | .nChar | .varchar | .nVarchar | .longVarchar | .longNVarchar | .clob | .nClob =>
    .varchar t.size
  | .date => .date
  | .timestamp => .timestamp false
  | .timestampWithTimezone => .timestamp true
  | .time | .timeWithTimezone => .varchar 100
  | _ => .maxVarchar

end RemoteType

end Pushdown
