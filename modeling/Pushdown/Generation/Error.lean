import Pushdown.Failure.Basic
import Pushdown.Sql.Expr

/-!
# `Generation.Error` — why a query cannot be written

## Contents

* `GenerationError` — the causes.
* `GenerationError.display` — the words that are logged.
* `GenerationError.toFailure` — the refusal that a caller gets.
-/

namespace Pushdown

/-- Why a query cannot be written. -/
inductive GenerationError
  /-- The notes of a column do not tell its remote type. -/
  | typeUnresolved (column : String) (fault : Json.Fault)
  /-- A function got another number of arguments than it takes. -/
  | argumentCount (function : ScalarFunction) (expected actual : Nat)
  /-- The FROM clause of a statement is neither a table nor a join. -/
  | fromKind (kind : NodeKind)
  /-- An operand of a join is neither a table nor a join. -/
  | relationExpected (kind : NodeKind)
  /-- A clause stands where an expression is expected. -/
  | misplacedClause (kind : NodeKind)
  /-- The escape of a LIKE is no string. -/
  | escapeKind (kind : NodeKind)
  /-- AND or OR of nothing. -/
  | noOperands (operator : Sql.Operator)
  | emptyInList
  | caseWithoutBranch
  | emptySelectList
  | emptyGroupBy
  | emptyOrderBy
deriving DecidableEq

namespace GenerationError

/-- Words for a construct that cannot be written, and the kind of the node that holds it. -/
def unsupported? : GenerationError → Option (String × NodeKind)
  | .typeUnresolved .. | .argumentCount .. => none
  | .fromKind kind =>
    some ("FROM clause must be a table or a join, got " ++ kind.name, .select)
  | .relationExpected kind => some ("expected a table or a join", kind)
  | .misplacedClause kind => some ("clause used where an expression is expected", kind)
  | .escapeKind kind => some ("LIKE escape must be a string literal, got " ++ kind.name, .predicate)
  | .noOperands operator => some (operator.text ++ " without operands", .predicate)
  | .emptyInList => some ("IN list without values", .predicate)
  | .caseWithoutBranch => some ("CASE without WHEN branches", .case)
  | .emptySelectList => some ("select list without expressions", .selectList)
  | .emptyGroupBy => some ("GROUP BY without expressions", .groupBy)
  | .emptyOrderBy => some ("ORDER BY without expressions", .orderBy)

/-- What is wrong with the type of a column. -/
def typeMessage (column : String) : String :=
  "Unable to read the remote type of column '" ++ column ++ "' from its adapter notes"

/-- What is wrong with the number of arguments. -/
def countMessage (function : ScalarFunction) (expected actual : Nat) : String :=
  "Function " ++ Enumeration.name function ++ " expects " ++ intText expected ++
    " argument(s), got " ++ intText actual

/-- The words that are logged. -/
def display : GenerationError → String
  | .typeUnresolved column fault => typeMessage column ++ ": " ++ fault.message
  | .argumentCount function expected actual => countMessage function expected actual
  | e =>
    match e.unsupported? with
    | some (reason, kind) => "Unsupported node: " ++ reason ++ " (node: " ++ kind.name ++ ")"
    | none => ""

/-- The refusal that a caller of a dialect gets. -/
def toFailure (dialect : String) : GenerationError → Failure
  | .typeUnresolved column fault =>
    { code := .columnTypeUnresolved
      message := typeMessage column
      context := some (.generation dialect ("column " ++ column) fault.message)
      hint := some "Refresh the virtual schema so that column metadata is discovered again" }
  | .argumentCount function expected actual =>
    { code := .malformedFunctionCall
      message := countMessage function expected actual
      context := some (.generation dialect (Enumeration.name function) "argument count mismatch") }
  | e =>
    let (reason, kind) := e.unsupported?.getD ("", .select)
    { code := .unsupportedNode
      message := "Node '" ++ kind.name ++ "' not supported for SQL generation: " ++ reason
      context := some (.generation dialect kind.name reason)
      hint := some "The pushed-down query uses a construct the dialect does not declare" }

end GenerationError

end Pushdown
