import Pushdown.Generation.Expression
import Pushdown.Sql.Lexeme

/-!
# `Generation.Statement` — statements and clauses of a query as SQL

The clauses of a statement are written in the order select list, FROM, WHERE, GROUP BY, HAVING, ORDER BY, and
the first refusal ends it all.

## Contents

* `Generator.selectItems`, `Generator.source`, `Generator.statement` — the clauses and the whole.
* `Generator.lexemes` — any node, a clause being written as that clause.
* `Generator.generate` — the SQL text of a node, with the events that report it.
* `Generator.standard` — the generator of a dialect that has no projection of its own.
-/

namespace Pushdown

namespace Generator

/-- An expression that stands directly in a select list. -/
def projected (g : Generator) : Node → Generating Sql.Item
  | .column c => g.projection.column c
  | node => do
    let e ← g.expr node
    pure (.expr e)

/-- The items of a select list. -/
def projectedItems (g : Generator) : List Node → Generating (List Sql.Item)
  | [] => pure []
  | n :: ns => do
    let item ← g.projected n
    let items ← g.projectedItems ns
    pure (item :: items)

/-- A select list, given the FROM clause of its statement if there is one. -/
def selectItems (g : Generator) (source : Option Node) : SelectList → Generating (List Sql.Item)
  | .anyValue => pure [g.projection.anyValue]
  | .wildcard => g.projection.wildcard source
  | .expressions nodes =>
    if nodes.isEmpty then Traced.refuse .emptySelectList else g.projectedItems nodes

/-- A FROM clause. A join on the right of a join is put in parentheses. -/
def source (g : Generator) : Node → Generating Sql.Source
  | .table t => pure (.mk (tableFactor g.dialect g.context t) [])
  | .join kind left right condition => do
    let left ← g.source left
    let factor ← match right with
      | .table t => pure (tableFactor g.dialect g.context t)
      | right => do
        let nested ← g.source right
        pure (.nested nested)
    let condition ← g.expr condition
    pure (left.push (.mk kind factor condition))
  | node => Traced.refuse (.relationExpected node.kind)

/-- The keys of a GROUP BY clause, of which there is at least one. -/
def groupKeys (g : Generator) (keys : List Node) : Generating (List Sql.Expr) :=
  if keys.isEmpty then Traced.refuse .emptyGroupBy else g.exprs keys

/-- A statement. -/
def statement (g : Generator) (list : SelectList) (relation : Node) (filter : Option Node)
    (groupBy : Option (List Node)) (having : Option Node) (orderBy : Option (List SortItem))
    (limit : Option Limit) : Generating Sql.Query := do
  if !relation.isRelation then Traced.refuse (.fromKind relation.kind)
  else
    let items ← g.selectItems (some relation) list
    let source ← g.source relation
    let filter ← g.optionalExpr filter
    let groupBy ← match groupBy with
      | some keys => g.groupKeys keys
      | none => pure []
    let having ← g.optionalExpr having
    let orderBy ← g.optionalSortKeys orderBy
    pure { items, source, filter, groupBy, having, orderBy, limit }

/-- The lexemes of any node. A clause is written as that clause. -/
def lexemes (g : Generator) : Node → Generating (List Sql.Lexeme)
  | .select list relation filter groupBy having orderBy limit => do
    let query ← g.statement list relation filter groupBy having orderBy limit
    pure query.lexemes
  | .selectList list => do
    let items ← g.selectItems none list
    pure (Sql.itemsLexemes items)
  | .table t => do
    let source ← g.source (.table t)
    pure source.lexemes
  | .join kind left right condition => do
    let source ← g.source (.join kind left right condition)
    pure source.lexemes
  | .orderBy items => do
    let keys ← g.optionalSortKeys (some items)
    pure (Sql.orderByLexemes keys)
  | .groupBy keys => do
    let keys ← g.groupKeys keys
    pure (Sql.groupByLexemes keys)
  | .limit l => pure (Sql.limitLexemes l)
  | node => do
    let e ← g.expr node
    pure e.lexemes

/-- The SQL text of a node, between the events that report its beginning and its end. -/
def generate (g : Generator) (node : Node) : Traced Failure String :=
  let outcome := g.lexemes node
  let start := Event.generating g.dialect.name node.kind.name
  match outcome.result with
  | .ok ls =>
    let sql := Sql.render ls
    ⟨start :: outcome.events ++ [.generated sql], .ok sql⟩
  | .error e =>
    ⟨start :: outcome.events ++ [.generationFailed e.display], .error (e.toFailure g.dialect.name)⟩

end Generator

namespace Projection

/-- The projection without peculiarities: `*` stays as it is, and a column is written as anywhere else. -/
def standard (d : Dialect) : Projection where
  anyValue := .expr (.boolean true)
  wildcard := fun _ => pure [.star]
  column := fun c => pure (.expr (columnExpr d c))
  concatenation := .groupConcat

end Projection

namespace Generator

/-- The generator of a dialect that has no projection of its own. -/
def standard (d : Dialect) (context : GenerationContext) : Generator :=
  { dialect := d, context := context, projection := .standard d }

end Generator

end Pushdown
