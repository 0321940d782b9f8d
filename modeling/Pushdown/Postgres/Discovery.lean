import Pushdown.Metadata.Mapping
import Pushdown.Metadata.Snapshot
import Pushdown.Postgres.TableFilter

/-!
# `Postgres.Discovery` — the remote catalogue as a snapshot

## Contents

* `RemoteType.postgres` — the canonical type of a remote type.
* `discoverColumn`, `discoverTable` — a column and a table as they are exposed.
* `discover` — the snapshot of a catalogue; the first table that is refused ends it.
-/

namespace Pushdown

namespace RemoteType

/-- The type that PostgreSQL's own rules give, if they have one: what the driver cannot name is text. -/
def postgresOwn? (t : RemoteType) : Option CanonicalType :=
  match t.typeCode with
  | .other => some (if t.name = "varbit" then .varchar t.size else .maxVarchar)
  | .sqlXml | .distinct | .binary => some .maxVarchar
  | _ => none

/-- The canonical type of a remote type, PostgreSQL's own rules first. -/
def postgres {ε : Type} (t : RemoteType) : Traced ε CanonicalType :=
  match t.postgresOwn? with
  | some mapped => do
    Traced.emit (.typeMapped t.name t.code.toInt mapped.display)
    pure mapped
  | none => pure t.standard

end RemoteType

/-- A column as it is exposed, with notes of its remote type. -/
def discoverColumn {ε : Type} (folding : CaseFolding) (c : RemoteColumn) : Traced ε ColumnMetadata := do
  let type ← c.type.postgres
  pure {
    name := folding.foldColumn c.name
    notes := ColumnNotes.text ⟨c.type.code, c.type.name⟩
    type
    nullable := c.nullable
    comment := c.comment }

/-- The columns of a table as they are exposed. -/
def discoverColumns {ε : Type} (folding : CaseFolding) :
    List RemoteColumn → Traced ε (List ColumnMetadata)
  | [] => pure []
  | c :: cs => do
    let column ← discoverColumn folding c
    let columns ← discoverColumns folding cs
    pure (column :: columns)

/-- A table as it is exposed. -/
def discoverTable {ε : Type} (folding : CaseFolding) (t : RemoteTable) : Traced ε TableMetadata := do
  let columns ← discoverColumns folding t.columns
  pure { name := folding.foldTable t.name, columns, comment := t.comment }

/-- The tables that a filter lets through, as they are exposed. -/
def discoverTables (filter : TableFilter) : List RemoteTable → Traced ConfigError (List TableMetadata)
  | [] => pure []
  | t :: ts => do
    let included ← filter.includes t.name
    if included then
      let table ← discoverTable filter.folding t
      let tables ← discoverTables filter ts
      pure (table :: tables)
    else discoverTables filter ts

/-- The snapshot of a catalogue. -/
def discover (filter : TableFilter) (catalogue : List RemoteTable) : Traced ConfigError Snapshot := do
  let tables ← discoverTables filter catalogue
  Traced.emit (.metadataRead catalogue.length tables.length)
  pure { tables }

end Pushdown
