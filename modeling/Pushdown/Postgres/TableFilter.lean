import Pushdown.Event
import Pushdown.Postgres.Folding

/-!
# `Postgres.TableFilter` — which remote tables are exposed

Names in SQL are in lower case if names are folded to upper case. A table whose name has an upper-case letter
could then never be reached: it is refused, or passed over if the options say so.

## Contents

* `TableFilter` — a folding, and whether such tables are passed over.
* `TableFilter.includes` — whether a table is exposed.
-/

namespace Pushdown

/-- Which remote tables are exposed. -/
structure TableFilter where
  folding : CaseFolding
  /-- Tables that could not be reached are passed over. -/
  ignoresUppercase : Bool
deriving DecidableEq, Repr

namespace TableFilter

/-- The error to pass over so that tables that could not be reached are left out. -/
def switch : String := "POSTGRESQL_UPPERCASE_TABLES"

/-- The table is exposed. -/
def includes (f : TableFilter) (table : String) : Traced ConfigError Bool :=
  if !Text.hasUppercase table || isUnquotedName table then pure true
  else match f.folding with
    | .preserveCase => pure true
    | .convertToUpper =>
      if f.ignoresUppercase then do
        Traced.emit (.tableIgnored table)
        pure false
      else Traced.refuse (.uppercaseTable table f.folding.name switch)

/-- What a filter says of itself. -/
def describe (f : TableFilter) : String :=
  "TableFilter \x7b folding: " ++ f.folding.label ++ ", ignore_uppercase_tables: " ++
    (if f.ignoresUppercase then "true" else "false") ++ " \x7d"

end TableFilter

end Pushdown
