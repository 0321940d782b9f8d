import Pushdown.Postgres.Folding
import Pushdown.Postgres.Projection
import Pushdown.Postgres.Rules

/-!
# `Postgres.Dialect` — how PostgreSQL writes SQL

## Contents

* `escapeBody` — the body of a string constant with backslash escapes.
* `Dialect.postgres` — the dialect under a folding.
* `Generator.postgres` — its generator.
-/

namespace Pushdown

/-- The body of a string constant with backslash escapes: backslashes and quotes are written twice. -/
def escapeBody (value : String) : String := Text.doubled '\'' (Text.doubled '\\' value)

namespace Dialect

/-- The name of the dialect. -/
def postgresName : String := "POSTGRESQL"

/-- Functions that PostgreSQL writes without parentheses. -/
def postgresOmitsParentheses : ScalarFunction → Bool
  | .currentDate | .currentTimestamp | .localtimestamp => true
  | _ => false

/-- The dialect of PostgreSQL under a folding. -/
def postgres (folding : CaseFolding) : Dialect where
  name := postgresName
  quote := folding.quote
  stringConstant := fun value => .escapeString (escapeBody value)
  omitsParentheses := postgresOmitsParentheses
  rules := .postgres
  catalogQualified := false
  schemaQualified := true
  nullSorting := .high
  regexpLike := fun value pattern => .binary .matches value pattern

end Dialect

namespace Generator

/-- The generator of PostgreSQL under a folding. -/
def postgres (folding : CaseFolding) (context : GenerationContext) : Generator where
  dialect := .postgres folding
  context := context
  projection := .postgres (.postgres folding)

end Generator

end Pushdown
