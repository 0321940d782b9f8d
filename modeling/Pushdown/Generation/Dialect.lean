import Pushdown.Generation.Rule

/-!
# `Generation.Dialect` — how a remote engine writes SQL

## Contents

* `NullSorting` — where missing values go if nothing is said.
* `GenerationContext` — catalogue and schema of a statement.
* `Dialect` — what differs from engine to engine.
* `Dialect.ansi` — the dialect without peculiarities.
-/

namespace Pushdown

/-- Where the remote engine puts missing values if nothing is said. -/
inductive NullSorting
  /-- They compare greater than every value. -/
  | high
  /-- They compare smaller than every value. -/
  | low
  | atStart
  | atEnd
deriving DecidableEq, Repr

namespace NullSorting

/-- Missing values come last if nothing is said. -/
def nullsLast : NullSorting → Bool → Bool
  | .high, ascending => ascending
  | .low, ascending => !ascending
  | .atStart, _ => false
  | .atEnd, _ => true

end NullSorting

/-- What a statement is generated for, beside the tree itself. -/
structure GenerationContext where
  catalog : Option String := none
  schema : Option String := none
deriving DecidableEq, Repr

/-- How a remote engine writes SQL. -/
structure Dialect where
  name : String
  /-- A name between quotes. -/
  quote : String → Sql.Ident
  /-- A string constant. -/
  stringConstant : String → Sql.Expr
  /-- A function that is written without parentheses if it has no arguments. -/
  omitsParentheses : ScalarFunction → Bool
  rules : FunctionRules
  /-- Table names are qualified by the catalogue. -/
  catalogQualified : Bool
  /-- Table names are qualified by the schema. -/
  schemaQualified : Bool
  nullSorting : NullSorting
  /-- A match with a regular expression. -/
  regexpLike : Sql.Expr → Sql.Expr → Sql.Expr

namespace Dialect

/-- A standard string constant, quotes inside written twice. -/
def standardString (value : String) : Sql.Expr := .string (Text.doubled '\'' value)

/-- The dialect without peculiarities. -/
def ansi : Dialect where
  name := "ANSI"
  quote := Sql.quotedIdent
  stringConstant := standardString
  omitsParentheses := fun _ => false
  rules := .empty
  catalogQualified := false
  schemaQualified := false
  nullSorting := .high
  regexpLike := fun value pattern => Sql.Expr.apply "REGEXP_LIKE" [value, pattern]

end Dialect

end Pushdown
