import Pushdown.Generation.Statement
import Pushdown.Text.Ascii
import Pushdown.Text.Cut

/-!
# `Postgres.Projection` — select lists of PostgreSQL

Values of some remote types only arrive if they are cast in the select list, and some do not arrive at all. A
column that stands directly in a select list is therefore cast by its remote type, and `*` is replaced by the
columns of all tables as soon as one of them needs a cast.

## Contents

* `ProjectionCast`, `ProjectionCast.ofTypeName` — what a remote type needs.
* `projectColumn` — a column in a select list.
* `expandedColumns`, `expandWildcard` — what `*` stands for.
* `Projection.postgres` — the projection of PostgreSQL.
-/

namespace Pushdown

/-- What a column needs in a select list. -/
inductive ProjectionCast
  | none
  | varchar
  | integer (typeName : String)
  /-- It is replaced by a text that names its type. -/
  | unsupported (typeName : String)
deriving DecidableEq, Repr

namespace ProjectionCast

/-- Remote types that are cast to text. -/
def textTypes : List String :=
  ["varbit", "point", "line", "lseg", "box", "path", "polygon", "circle", "cidr", "citext", "inet",
   "macaddr", "interval", "json", "jsonb", "uuid", "tsquery", "tsvector", "xml"]

/-- Beginnings of remote types that count up by themselves, and the types that they are read as. -/
def serialTypes : List (String × String) :=
  [("smallserial", "SMALLINT"), ("serial", "INTEGER"), ("bigserial", "BIGINT")]

/-- Remote types that do not arrive. -/
def unsupportedTypes : List String := ["bytea"]

/-- What a remote type needs. -/
def ofTypeName (typeName : String) : ProjectionCast :=
  let lowered := Text.asciiLower typeName
  if unsupportedTypes.contains lowered then .unsupported lowered
  else if textTypes.contains lowered then .varchar
  else match serialTypes.find? fun entry => Text.startsWith entry.1 lowered with
    | some entry => .integer entry.2
    | Option.none => .none

/-- A column with its cast. -/
def apply (column : Sql.Expr) : ProjectionCast → Sql.Item
  | .none => .expr column
  | .varchar => .expr (.cast column "VARCHAR")
  | .integer typeName => .expr (.cast column typeName)
  | .unsupported typeName =>
    .aliased (.cast (.string (typeName ++ " NOT SUPPORTED")) "VARCHAR") ⟨"not_supported", false⟩

end ProjectionCast

/-- What a column needs, by the remote type that its notes tell. -/
def ColumnMetadata.projectionCast (c : ColumnMetadata) : Except GenerationError ProjectionCast :=
  match c.remoteType with
  | .ok notes => .ok (.ofTypeName notes.typeName)
  | .error fault => .error (.typeUnresolved c.name fault)

/-- A column in a select list. -/
def projectColumn (d : Dialect) (c : Column) : Except GenerationError Sql.Item := do
  let cast ← c.metadata.projectionCast
  return cast.apply (columnExpr d c)

/-- Some column needs a cast; the first that needs one, or whose type cannot be read, decides. -/
def needsCast : List ColumnMetadata → Except GenerationError Bool
  | [] => .ok false
  | c :: cs =>
    match c.projectionCast with
    | .ok cast => if cast = .none then needsCast cs else .ok true
    | .error e => .error e

/-- The columns of tables, qualified if the FROM clause is a join. -/
def columnsOf (qualified : Bool) (tables : List Table) : List Column :=
  tables.flatMap fun t =>
    t.metadata.columns.map fun c =>
      { metadata := c, tableAlias := if qualified then some t.qualifier else none }

/-- The columns that `*` stands for, numbered in order. -/
def expandedColumns (source : Node) : List Column :=
  (columnsOf source.isJoin source.tables).mapIdx fun i c => { c with id := i }

/-- The items of `*`: the columns of all tables if one of them needs a cast. -/
def expandWildcard (d : Dialect) : Option Node → Generating (List Sql.Item)
  | none => pure [.star]
  | some source => do
    let tables := source.tables
    if ← Traced.ofExcept (needsCast (tables.flatMap (·.metadata.columns))) then
      Traced.emit (.wildcardExpanded tables.length)
      Traced.ofExcept ((expandedColumns source).mapM (projectColumn d))
    else pure [.star]

namespace Projection

/-- The projection of PostgreSQL. -/
def postgres (d : Dialect) : Projection where
  anyValue := .expr (.number "1")
  wildcard := expandWildcard d
  column := fun c => Traced.ofExcept (projectColumn d c)
  concatenation := .stringAgg

end Projection

end Pushdown
