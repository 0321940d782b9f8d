import Pushdown.Generation.Dialect

/-!
# `Generation.Leaf` — columns, constants and tables

## Contents

* `columnExpr` — a column, behind its table if that is known.
* `doubleStyle`, `doubleExpr` — a double, which always keeps a fraction or an exponent.
* `literalExpr` — a constant.
* `tableFactor` — a table of a FROM clause.
-/

namespace Pushdown

/-- A column, behind the table that qualifies it. -/
def columnExpr (d : Dialect) (c : Column) : Sql.Expr :=
  match c.qualifier with
  | some q => .path [d.quote q, d.quote c.name]
  | none => .path [d.quote c.name]

/-- Doubles from a millionth up to ten to the sixteenth are written positionally, and an integral one keeps
`.0`, so that the remote engine reads each as an inexact number; a tie between two decimals goes upwards. -/
def doubleStyle : FloatStyle := ⟨fun point => -5 ≤ point && point ≤ 16, true, false, .up⟩

/-- The name of a double that is not finite. -/
def nonFiniteName (x : Binary64) : String :=
  if x.isNaN then "NaN" else if x.isNegative then "-Infinity" else "Infinity"

/-- A double; one that is not finite is read by the remote engine from its name. -/
def doubleExpr (x : Binary64) : Sql.Expr :=
  if x.isFinite then .number (doubleStyle.format x)
  else .cast (.string (nonFiniteName x)) "DOUBLE PRECISION"

/-- A constant. -/
def literalExpr (d : Dialect) : Literal → Sql.Expr
  | .null => .null
  | .bool value => .boolean value
  | .date text => .typed "DATE" text
  | .timestamp text => .typed "TIMESTAMP" text
  | .timestampUtc text => .typed "TIMESTAMP" text
  | .double value => doubleExpr value
  | .exact text => .number text
  | .string text => d.stringConstant text

/-- A name that qualifies a table, if it is wanted and not empty. -/
def qualifyingPart (d : Dialect) (wanted : Bool) (name : Option String) : List Sql.Ident :=
  match name with
  | some n => if wanted && n ≠ "" then [d.quote n] else []
  | none => []

/-- A table of a FROM clause. An alias that repeats the name is left out. -/
def tableFactor (d : Dialect) (context : GenerationContext) (t : Table) : Sql.Factor :=
  .table
    (qualifyingPart d d.catalogQualified context.catalog ++
      qualifyingPart d d.schemaQualified context.schema ++ [d.quote t.name])
    ((t.aliasName.filter (· ≠ t.name)).map d.quote)

end Pushdown
