import Pushdown.Json.Decode

/-!
# `Metadata.Remote` — what the remote catalogue says

## Contents

* `RemoteTypeCode` — the numbered type codes of the remote driver.
* `RemoteType` — code, name, size and scale of a column.
* `RemoteColumn`, `RemoteTable` — the catalogue before any name is folded or any type is mapped.
-/

namespace Pushdown

/-- Type code of the remote driver. -/
inductive RemoteTypeCode
  | bit
  | tinyInt
  | smallInt
  | integer
  | bigInt
  | float
  | real
  | double
  | numeric
  | decimal
  | char
  | varchar
  | longVarchar
  | date
  | time
  | timestamp
  | binary
  | varBinary
  | longVarBinary
  | null
  | other
  | javaObject
  | distinct
  | struct
  | array
  | blob
  | clob
  | ref
  | dataLink
  | boolean
  | rowId
  | nChar
  | nVarchar
  | longNVarchar
  | nClob
  | sqlXml
  | refCursor
  | timeWithTimezone
  | timestampWithTimezone
  /-- A number that stands for none of the others. -/
  | unknown (code : Int32)
deriving DecidableEq, Repr

namespace RemoteTypeCode

/-- The codes that have a name. -/
def known : List RemoteTypeCode :=
  [.bit, .tinyInt, .smallInt, .integer, .bigInt, .float, .real, .double, .numeric, .decimal, .char,
   .varchar, .longVarchar, .date, .time, .timestamp, .binary, .varBinary, .longVarBinary, .null, .other,
   .javaObject, .distinct, .struct, .array, .blob, .clob, .ref, .dataLink, .boolean, .rowId, .nChar,
   .nVarchar, .longNVarchar, .nClob, .sqlXml, .refCursor, .timeWithTimezone, .timestampWithTimezone]

/-- The number of a code. -/
def code : RemoteTypeCode → Int32
  | .bit => -7
  | .tinyInt => -6
  | .smallInt => 5
  | .integer => 4
  | .bigInt => -5
  | .float => 6
  | .real => 7
  | .double => 8
  | .numeric => 2
  | .decimal => 3
  | .char => 1
  | .varchar => 12
  | .longVarchar => -1
  | .date => 91
  | .time => 92
  | .timestamp => 93
  | .binary => -2
  | .varBinary => -3
  | .longVarBinary => -4
  | .null => 0
  | .other => 1111
  | .javaObject => 2000
  | .distinct => 2001
  | .struct => 2002
  | .array => 2003
  | .blob => 2004
  | .clob => 2005
  | .ref => 2006
  | .dataLink => 70
  | .boolean => 16
  | .rowId => -8
  | .nChar => -15
  | .nVarchar => -9
  | .longNVarchar => -16
  | .nClob => 2011
  | .sqlXml => 2009
  | .refCursor => 2012
  | .timeWithTimezone => 2013
  | .timestampWithTimezone => 2014
  | .unknown n => n

/-- The code with a number. -/
def ofCode (n : Int32) : RemoteTypeCode := (known.find? (·.code == n)).getD (.unknown n)

/-- The name of a code. -/
def label : RemoteTypeCode → String
  | .bit => "Bit"
  | .tinyInt => "TinyInt"
  | .smallInt => "SmallInt"
  | .integer => "Integer"
  | .bigInt => "BigInt"
  | .float => "Float"
  | .real => "Real"
  | .double => "Double"
  | .numeric => "Numeric"
  | .decimal => "Decimal"
  | .char => "Char"
  | .varchar => "Varchar"
  | .longVarchar => "LongVarchar"
  | .date => "Date"
  | .time => "Time"
  | .timestamp => "Timestamp"
  | .binary => "Binary"
  | .varBinary => "VarBinary"
  | .longVarBinary => "LongVarBinary"
  | .null => "Null"
  | .other => "Other"
  | .javaObject => "JavaObject"
  | .distinct => "Distinct"
  | .struct => "Struct"
  | .array => "Array"
  | .blob => "Blob"
  | .clob => "Clob"
  | .ref => "Ref"
  | .dataLink => "DataLink"
  | .boolean => "Boolean"
  | .rowId => "RowId"
  | .nChar => "NChar"
  | .nVarchar => "NVarchar"
  | .longNVarchar => "LongNVarchar"
  | .nClob => "NClob"
  | .sqlXml => "SqlXml"
  | .refCursor => "RefCursor"
  | .timeWithTimezone => "TimeWithTimezone"
  | .timestampWithTimezone => "TimestampWithTimezone"
  | .unknown n => "Unknown(" ++ intText n.toInt ++ ")"

end RemoteTypeCode

/-- Type of a remote column. -/
structure RemoteType where
  /-- Number of its type code. -/
  code : Int32
  name : String
  /-- Precision of a number, or length of a text; zero if unknown. -/
  size : Int32 := 0
  scale : Int32 := 0
deriving DecidableEq, Repr

/-- A signed number of 32 bits. -/
def Json.Reader.int32 : Json.Reader Int32 := do
  let i ← Json.Reader.integer Json.Reader.signed32
  pure (Int32.ofInt i)

namespace RemoteType

/-- The type code. -/
def typeCode (t : RemoteType) : RemoteTypeCode := .ofCode t.code

/-- The form that is exchanged. -/
def toJson (t : RemoteType) : Json :=
  .object [("type_code", .int t.code.toInt), ("type_name", .string t.name),
    ("precision_or_size", .int t.size.toInt), ("decimal_scale", .int t.scale.toInt)]

open Json (Reader.text Reader.int32) in
/-- The fields of a type. -/
def fields : List (Json.Field RemoteType) :=
  [{ name := "type_code", store := fun t => do return { t with code := ← Reader.int32 } },
   { name := "type_name", store := fun t => do return { t with name := ← Reader.text } },
   { name := "precision_or_size", store := fun t => do return { t with size := ← Reader.int32 } },
   { name := "decimal_scale", store := fun t => do return { t with scale := ← Reader.int32 } }]

/-- Reads a type. -/
def reader : Json.Reader RemoteType :=
  Json.Reader.record "RemoteTypeDescriptor" fields { code := 0, name := "" }

end RemoteType

/-- A column of the remote catalogue. -/
structure RemoteColumn where
  name : String
  type : RemoteType
  nullable : Bool := true
  comment : Option String := none
deriving DecidableEq, Repr

/-- A table of the remote catalogue. -/
structure RemoteTable where
  name : String
  columns : List RemoteColumn
  comment : Option String := none
deriving DecidableEq, Repr

end Pushdown
