import Pushdown.Metadata.Type
import Pushdown.Metadata.Remote

/-!
# `Metadata.Snapshot` — the tables and columns that are exposed

A column carries notes, a JSON text that says which remote type it has. They are written when the catalogue is
read, and read again when a query is generated.

## Contents

* `ColumnNotes` — remote type code and type name of a column, and their JSON text.
* `ColumnMetadata`, `TableMetadata`, `Snapshot` — what is exposed, and its JSON form.
* `ColumnMetadata.remoteType` — the notes of a column, read again.
-/

namespace Pushdown

/-- What the notes of a column say: the number of its remote type code, and the name of its remote type. -/
structure ColumnNotes where
  typeCode : Int32
  typeName : String
deriving DecidableEq, Repr

namespace ColumnNotes

/-- The form that is exchanged. -/
def toJson (n : ColumnNotes) : Json :=
  .object [("jdbcDataType", .int n.typeCode.toInt), ("typeName", .string n.typeName)]

/-- The notes as JSON text. -/
def text (n : ColumnNotes) : String := n.toJson.render

open Json (Reader.text Reader.int32) in
/-- The fields of the notes. -/
def fields : List (Json.Field ColumnNotes) :=
  [{ name := "jdbcDataType", store := fun n => do return { n with typeCode := ← Reader.int32 } },
   { name := "typeName", store := fun n => do return { n with typeName := ← Reader.text } }]

/-- Reads notes. -/
def reader : Json.Reader ColumnNotes := Json.Reader.record "ColumnAdapterNotes" fields ⟨0, ""⟩

/-- The notes that a text holds. -/
def parse (s : String) : Except Json.Fault ColumnNotes := reader.run s

end ColumnNotes

/-- An exposed column. -/
structure ColumnMetadata where
  name : String
  /-- JSON text of its `ColumnNotes`. -/
  notes : String
  type : CanonicalType
  nullable : Bool := true
  comment : Option String := none
deriving DecidableEq, Repr

/-- An exposed table. -/
structure TableMetadata where
  name : String
  columns : List ColumnMetadata
  comment : Option String := none
deriving DecidableEq, Repr

/-- All exposed tables. -/
structure Snapshot where
  tables : List TableMetadata := []
deriving DecidableEq, Repr

/-- A comment, unless there is none. -/
def commentMember (comment : Option String) : List (String × Json) :=
  match comment with
  | some c => [("comment", .string c)]
  | none => []

open Json (Reader.text Reader.boolean Reader.optional Reader.list)

namespace ColumnMetadata

/-- The remote type that the notes tell. -/
def remoteType (c : ColumnMetadata) : Except Json.Fault ColumnNotes := ColumnNotes.parse c.notes

/-- The form that is exchanged. -/
def toJson (c : ColumnMetadata) : Json :=
  .object
    ([("name", .string c.name), ("adapter_notes", .string c.notes), ("data_type", c.type.toJson),
      ("nullable", .bool c.nullable)] ++ commentMember c.comment)

/-- The fields of a column. -/
def fields : List (Json.Field ColumnMetadata) :=
  [{ name := "name", store := fun c => do return { c with name := ← Reader.text } },
   { name := "adapter_notes", store := fun c => do return { c with notes := ← Reader.text } },
   { name := "data_type", store := fun c => do return { c with type := ← CanonicalType.reader } },
   { name := "nullable", optional := true, trailing := true,
     store := fun c => do return { c with nullable := ← Reader.boolean } },
   { name := "comment", optional := true, trailing := true,
     store := fun c => do return { c with comment := ← Reader.optional Reader.text } }]

/-- Reads a column. -/
def reader : Json.Reader ColumnMetadata :=
  Json.Reader.record "ColumnMetadata" fields { name := "", notes := "", type := .boolean }

end ColumnMetadata

namespace TableMetadata

/-- The first column with a name. -/
def column? (t : TableMetadata) (name : String) : Option ColumnMetadata :=
  t.columns.find? (·.name == name)

/-- The form that is exchanged. -/
def toJson (t : TableMetadata) : Json :=
  .object
    ([("name", .string t.name), ("columns", .array (t.columns.map ColumnMetadata.toJson))] ++
      commentMember t.comment)

/-- The fields of a table. -/
def fields : List (Json.Field TableMetadata) :=
  [{ name := "name", store := fun t => do return { t with name := ← Reader.text } },
   { name := "columns",
     store := fun t => do return { t with columns := ← Reader.list ColumnMetadata.reader } },
   { name := "comment", optional := true, trailing := true,
     store := fun t => do return { t with comment := ← Reader.optional Reader.text } }]

/-- Reads a table. -/
def reader : Json.Reader TableMetadata :=
  Json.Reader.record "TableMetadata" fields { name := "", columns := [] }

end TableMetadata

namespace Snapshot

/-- The first table with a name. -/
def table? (s : Snapshot) (name : String) : Option TableMetadata := s.tables.find? (·.name == name)

/-- The names of the tables, in order. -/
def names (s : Snapshot) : List String := s.tables.map (·.name)

/-- The form that is exchanged. -/
def toJson (s : Snapshot) : Json := .object [("tables", .array (s.tables.map TableMetadata.toJson))]

/-- The snapshot as JSON text. -/
def text (s : Snapshot) : String := s.toJson.render

/-- The fields of a snapshot. -/
def fields : List (Json.Field Snapshot) :=
  [{ name := "tables",
     store := fun s => do return { s with tables := ← Reader.list TableMetadata.reader } }]

/-- Reads a snapshot. -/
def reader : Json.Reader Snapshot := Json.Reader.record "MetadataSnapshot" fields {}

/-- The snapshot that a text holds. -/
def parse (s : String) : Except Json.Fault Snapshot := reader.run s

end Snapshot

end Pushdown
