import Pushdown.Event
import Pushdown.Generation.Leaf

/-!
# `Generation.Expression` — expressions of a query as SQL

Operands are written before their operator, from left to right, and the first refusal ends it all. A connective
and an arithmetic call are put in parentheses as a whole, other expressions are not.

## Contents

* `Projection` — how a generator writes select lists and string aggregation.
* `Generator` — a dialect, a context and a projection.
* `scalarExpr` — a call of a scalar function on arguments already written.
* `Generator.expr` — an expression, by recursion over its tree.
-/

namespace Pushdown

/-- A computation of the generator. -/
abbrev Generating (α : Type) : Type := Traced GenerationError α

/-- How the strings of a group are put together. -/
inductive Concatenation
  /-- By `GROUP_CONCAT`, with an ordering and a separator as clauses. -/
  | groupConcat
  /-- By `STRING_AGG`, with the separator as second argument; an ordering is not written. -/
  | stringAgg

/-- How a generator writes select lists and string aggregation. -/
structure Projection where
  /-- The item of a select list whose value does not matter. -/
  anyValue : Sql.Item
  /-- The items of `*`, given the FROM clause if there is one. -/
  wildcard : Option Node → Generating (List Sql.Item)
  /-- A column that stands directly in a select list. -/
  column : Column → Generating Sql.Item
  concatenation : Concatenation

/-- What turns a query into SQL. -/
structure Generator where
  dialect : Dialect
  context : GenerationContext
  projection : Projection

/-! ## Calls of scalar functions -/

/-- The operator that stands for a function. -/
def arithmeticOperator? : ScalarFunction → Option Sql.Operator
  | .add => some .plus
  | .sub => some .minus
  | .mult => some .times
  | .floatDiv => some .divide
  | _ => none

/-- A call of a function without a rule. -/
def plainCall (d : Dialect) (function : ScalarFunction) (arguments : List Sql.Expr) :
    Except GenerationError Sql.Expr :=
  if arguments.isEmpty && d.omitsParentheses function then .ok (.bare (Enumeration.name function))
  else match arithmeticOperator? function with
    | some operator =>
      match arguments with
      | [left, right] => .ok (.nested (.binary operator left right))
      | _ => .error (.argumentCount function 2 arguments.length)
    | none =>
      if function = .neg then
        match arguments with
        | [operand] => .ok (.negate (.nested operand))
        | _ => .error (.argumentCount function 1 arguments.length)
      else .ok (Sql.Expr.apply (Enumeration.name function) arguments)

/-- A call of a function, by its rule if it has one. -/
def scalarExpr (d : Dialect) (function : ScalarFunction) (arguments : List Sql.Expr) :
    Generating Sql.Expr := do
  match ← Traced.ofExcept (d.rules.call? function arguments) with
  | some e =>
    Traced.emit (.ruleApplied (Enumeration.name function))
    pure e
  | none => Traced.ofExcept (plainCall d function arguments)

/-! ## Other calls -/

/-- Operands joined by a connective, from the left, in parentheses. -/
def connective (operator : Sql.Operator) : List Sql.Expr → Except GenerationError Sql.Expr
  | [] => .error (.noOperands operator)
  | first :: rest => .ok (.nested (rest.foldl (fun left right => .binary operator left right) first))

/-- The text of a LIKE escape, which must be a string. -/
def escapeText : Option Node → Except GenerationError (Option String)
  | none => .ok none
  | some (.literal (.string text)) => .ok (some (Text.doubled '\'' text))
  | some node => .error (.escapeKind node.kind)

/-- A call of an aggregate function. Several distinct arguments are one row. -/
def aggregateExpr (function : AggregateFunction) (distinct : Bool) (arguments : List Sql.Expr) : Sql.Expr :=
  let name := Enumeration.name function
  if arguments.isEmpty then .callStar name
  else if distinct && 1 < arguments.length then .call name true [.tuple arguments]
  else .call name distinct arguments

/-- The second argument of `STRING_AGG`. -/
def separatorExpr (d : Dialect) : Option String → Sql.Expr
  | some text => d.stringConstant text
  | none => .string ","

/-- A sort key; where missing values go is only written if the engine would not put them there. -/
def sortKey (d : Dialect) (key : Sql.Expr) (ascending nullsLast : Bool) : Sql.SortKey :=
  .mk key (!ascending)
    (if nullsLast = d.nullSorting.nullsLast ascending then none
      else some (if nullsLast then .last else .first))

/-! ## Expressions -/

namespace Generator

mutual

/-- An expression. A clause is refused. -/
def expr (g : Generator) : Node → Generating Sql.Expr
  | .column c => pure (columnExpr g.dialect c)
  | .literal l => pure (literalExpr g.dialect l)
  | .predicate p => g.predicate p
  | .scalar function arguments => do
    let arguments ← g.exprs arguments
    scalarExpr g.dialect function arguments
  | .extract unit argument => do
    let argument ← g.expr argument
    pure (.extract (Text.asciiUpper unit) argument)
  | .case basis branches otherwise => do
    if branches.isEmpty then Traced.refuse .caseWithoutBranch
    else
      let branches ← g.branches branches
      let basis ← g.optionalExpr basis
      let otherwise ← g.optionalExpr otherwise
      pure (.case basis branches otherwise)
  | .cast argument type => do
    let argument ← g.expr argument
    pure (.cast argument type.sqlName)
  | .aggregate function arguments distinct => do
    let arguments ← g.exprs arguments
    pure (aggregateExpr function distinct arguments)
  | .groupConcat argument distinct ordering separator =>
    match g.projection.concatenation with
    | .groupConcat => do
      let ordering ← g.optionalSortKeys ordering
      let argument ← g.expr argument
      pure (.groupConcat argument distinct ordering (separator.map (Text.doubled '\'')))
    | .stringAgg => do
      if ordering.isSome then Traced.emit .orderingDropped
      let argument ← g.expr argument
      pure (.call "STRING_AGG" distinct [argument, separatorExpr g.dialect separator])
  | .select _ _ _ _ _ _ _ => Traced.refuse (.misplacedClause .select)
  | .selectList _ => Traced.refuse (.misplacedClause .selectList)
  | .table _ => Traced.refuse (.misplacedClause .table)
  | .join _ _ _ _ => Traced.refuse (.misplacedClause .join)
  | .orderBy _ => Traced.refuse (.misplacedClause .orderBy)
  | .groupBy _ => Traced.refuse (.misplacedClause .groupBy)
  | .limit _ => Traced.refuse (.misplacedClause .limit)

/-- Each of several expressions. -/
def exprs (g : Generator) : List Node → Generating (List Sql.Expr)
  | [] => pure []
  | n :: ns => do
    let e ← g.expr n
    let es ← g.exprs ns
    pure (e :: es)

/-- An expression, if there is one. -/
def optionalExpr (g : Generator) : Option Node → Generating (Option Sql.Expr)
  | none => pure none
  | some n => do
    let e ← g.expr n
    pure (some e)

/-- A condition. -/
def predicate (g : Generator) : Predicate → Generating Sql.Expr
  | .and operands => do
    let operands ← g.exprs operands
    Traced.ofExcept (connective .and operands)
  | .or operands => do
    let operands ← g.exprs operands
    Traced.ofExcept (connective .or operands)
  | .not operand => do
    let operand ← g.expr operand
    pure (.not (.nested operand))
  | .equal left right => do
    let left ← g.expr left
    let right ← g.expr right
    pure (.binary .equal left right)
  | .notEqual left right => do
    let left ← g.expr left
    let right ← g.expr right
    pure (.binary .notEqual left right)
  | .less left right => do
    let left ← g.expr left
    let right ← g.expr right
    pure (.binary .less left right)
  | .lessEqual left right => do
    let left ← g.expr left
    let right ← g.expr right
    pure (.binary .lessEqual left right)
  | .like value pattern escape => do
    let value ← g.expr value
    let pattern ← g.expr pattern
    let escape ← Traced.ofExcept (escapeText escape)
    pure (.like value pattern escape)
  | .regexp value pattern => do
    let value ← g.expr value
    let pattern ← g.expr pattern
    pure (g.dialect.regexpLike value pattern)
  | .between value low high => do
    let value ← g.expr value
    let low ← g.expr low
    let high ← g.expr high
    pure (.between value low high)
  | .inList value candidates => do
    if candidates.isEmpty then Traced.refuse .emptyInList
    else
      let value ← g.expr value
      let candidates ← g.exprs candidates
      pure (.inList value candidates)
  | .isNull operand => do
    let operand ← g.expr operand
    pure (.isNull operand)
  | .isNotNull operand => do
    let operand ← g.expr operand
    pure (.isNotNull operand)

/-- The branches of a CASE. -/
def branches (g : Generator) : List Branch → Generating (List Sql.When)
  | [] => pure []
  | .mk condition result :: rest => do
    let condition ← g.expr condition
    let result ← g.expr result
    let rest ← g.branches rest
    pure (.mk condition result :: rest)

/-- Each of several sort keys. -/
def sortKeysFrom (g : Generator) : List SortItem → Generating (List Sql.SortKey)
  | [] => pure []
  | .mk key ascending nullsLast :: rest => do
    let key ← g.expr key
    let rest ← g.sortKeysFrom rest
    pure (sortKey g.dialect key ascending nullsLast :: rest)

/-- The sort keys of an ordering, if there is one. An ordering has at least one key. -/
def optionalSortKeys (g : Generator) : Option (List SortItem) → Generating (List Sql.SortKey)
  | none => pure []
  | some items => do
    if items.isEmpty then Traced.refuse .emptyOrderBy
    else g.sortKeysFrom items

end

end Generator

end Pushdown
