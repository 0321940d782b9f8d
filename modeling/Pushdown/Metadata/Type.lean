import Pushdown.Json.Decode

/-!
# `Metadata.Type` — the types of columns on the side of the federation engine

## Contents

* `CanonicalType` — the types, within the limits `maxLength` and `maxPrecision`.
* `CanonicalType.varchar` — the character type of a length that may be unknown or too large.
* `CanonicalType.sqlName`, `CanonicalType.display` — the name inside a cast, and the full name.
* `CanonicalType.toJson`, `CanonicalType.reader` — the form that is exchanged.
-/

namespace Pushdown

/-- Longest character type that the federation engine can hold. -/
def maxLength : UInt32 := 2000000

/-- Largest precision of an exact number that the federation engine can hold. -/
def maxPrecision : UInt32 := 36

/-- Characters that a text may hold. -/
inductive Charset
  | utf8
  | ascii
deriving DecidableEq, Repr

/-- Type of a column on the side of the federation engine. -/
inductive CanonicalType
  | boolean
  | exactNumeric (precision scale : UInt32)
  | double
  | date
  | timestamp (withLocalTimeZone : Bool)
  | character (length : UInt32) (charset : Charset)
  | maxCharacter (charset : Charset)
deriving DecidableEq, Repr

/-- An unsigned number of 32 bits as text. -/
def wordText (n : UInt32) : String := intText n.toNat

/-- The unsigned number of 32 bits with the value of a signed one, unless that is negative. -/
def word? (n : Int32) : Option UInt32 :=
  if 0 ≤ n.toInt then some (UInt32.ofNat n.toInt.toNat) else none

namespace Charset

/-- The name of a character set. -/
def name : Charset → String
  | .utf8 => "UTF8"
  | .ascii => "ASCII"

/-- The character sets with their names. -/
def variants : List (String × Charset) := [.utf8, .ascii].map fun c => (c.name, c)

end Charset

namespace CanonicalType

/-- The character type of any length. -/
def maxVarchar : CanonicalType := .maxCharacter .utf8

/-- The character type of a length, or the one of any length if it is unknown or too large. -/
def varchar (length : Int32) : CanonicalType :=
  match word? length with
  | some n => if 1 ≤ n ∧ n ≤ maxLength then .character n .utf8 else maxVarchar
  | none => maxVarchar

/-- The name inside a cast on the remote side. -/
def sqlName : CanonicalType → String
  | .boolean => "BOOLEAN"
  | .exactNumeric p s => "DECIMAL(" ++ wordText p ++ ", " ++ wordText s ++ ")"
  | .double => "DOUBLE PRECISION"
  | .date => "DATE"
  | .timestamp false => "TIMESTAMP"
  | .timestamp true => "TIMESTAMP WITH TIME ZONE"
  | .character n _ => "VARCHAR(" ++ wordText n ++ ")"
  | .maxCharacter _ => "VARCHAR(" ++ wordText maxLength ++ ")"

/-- The full name, as the federation engine writes it. -/
def display : CanonicalType → String
  | .boolean => "BOOLEAN"
  | .exactNumeric p s => "DECIMAL(" ++ wordText p ++ ", " ++ wordText s ++ ")"
  | .double => "DOUBLE"
  | .date => "DATE"
  | .timestamp false => "TIMESTAMP"
  | .timestamp true => "TIMESTAMP WITH LOCAL TIME ZONE"
  | .character n c => "VARCHAR(" ++ wordText n ++ ") " ++ c.name
  | .maxCharacter c => "VARCHAR(" ++ wordText maxLength ++ ") " ++ c.name

/-- The tag that names the type. -/
def tag : CanonicalType → String
  | .boolean => "boolean"
  | .exactNumeric .. => "exact_numeric"
  | .double => "double"
  | .date => "date"
  | .timestamp .. => "timestamp"
  | .character .. => "character"
  | .maxCharacter .. => "max_character"

/-- The parts of the type beside its tag. -/
def members : CanonicalType → List (String × Json)
  | .boolean | .double | .date => []
  | .exactNumeric p s => [("precision", .int p.toNat), ("scale", .int s.toNat)]
  | .timestamp z => [("with_local_time_zone", .bool z)]
  | .character n c => [("length", .int n.toNat), ("charset", .string c.name)]
  | .maxCharacter c => [("charset", .string c.name)]

/-- The form that is exchanged. -/
def toJson (t : CanonicalType) : Json := .object (("type", .string t.tag) :: t.members)

/-- A buffered unsigned number of 32 bits. -/
def decodeWord (j : Json) : Except Json.Cause UInt32 := do
  let i ← Json.Decode.integer Json.Reader.unsigned32 j
  return UInt32.ofNat i.toNat

/-- A type without parts. -/
def plainShape (name : String) (t : CanonicalType) : Json.Shape CanonicalType :=
  { tag := t.tag, name := "CanonicalType::" ++ name, fields := [], init := t }

/-- The shapes of a type, by tag. -/
def shapes : List (Json.Shape CanonicalType) :=
  [plainShape "Boolean" .boolean,
   { tag := "exact_numeric", name := "CanonicalType::ExactNumeric", init := .exactNumeric 0 0,
     fields :=
       [{ name := "precision", store := fun
            | .exactNumeric _ s, j => do return .exactNumeric (← decodeWord j) s
            | t, _ => .ok t },
        { name := "scale", store := fun
            | .exactNumeric p _, j => do return .exactNumeric p (← decodeWord j)
            | t, _ => .ok t }] },
   plainShape "Double" .double,
   plainShape "Date" .date,
   { tag := "timestamp", name := "CanonicalType::Timestamp", init := .timestamp false,
     fields :=
       [{ name := "with_local_time_zone", store := fun _ j => do
            return .timestamp (← Json.Decode.boolean j) }] },
   { tag := "character", name := "CanonicalType::Character", init := .character 0 .utf8,
     fields :=
       [{ name := "length", store := fun
            | .character _ c, j => do return .character (← decodeWord j) c
            | t, _ => .ok t },
        { name := "charset", store := fun
            | .character n _, j => do return .character n (← Json.Decode.variant Charset.variants j)
            | t, _ => .ok t }] },
   { tag := "max_character", name := "CanonicalType::MaxCharacter", init := .maxCharacter .utf8,
     fields :=
       [{ name := "charset", store := fun _ j => do
            return .maxCharacter (← Json.Decode.variant Charset.variants j) }] }]

/-- Reads a type. -/
def reader : Json.Reader CanonicalType := Json.Reader.tagged "CanonicalType" shapes

end CanonicalType

end Pushdown
