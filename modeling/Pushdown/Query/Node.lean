import Pushdown.Function.Scalar
import Pushdown.Function.Aggregate
import Pushdown.Metadata.Snapshot

/-!
# `Query.Node` — the query tree that the federation engine hands over

Every part of a query is a node: statements and clauses as well as expressions. Which nodes may stand where is
not in the type; generation refuses a node in the wrong place.

## Contents

* `Literal`, `Column`, `Table`, `Limit` — the leaves.
* `Node`, with `SelectList`, `Predicate`, `Branch`, `SortItem` — the tree.
* `NodeKind`, `Node.kind` — what logs and messages call a node.
* `Node.tables` — the tables of a FROM clause, from left to right.
* `Node.source_induction` — induction over a FROM clause.
-/

namespace Pushdown

/-- A constant. -/
inductive Literal
  | null
  | bool (value : Bool)
  | date (text : String)
  | timestamp (text : String)
  | timestampUtc (text : String)
  | double (value : Binary64)
  /-- An exact number, as decimal text. -/
  | exact (text : String)
  | string (text : String)
deriving DecidableEq, Repr

/-- A reference to a column. -/
structure Column where
  /-- Number of the column in its statement. -/
  id : Nat := 0
  metadata : ColumnMetadata
  tableName : Option String := none
  tableAlias : Option String := none
deriving DecidableEq, Repr

/-- A table in a FROM clause. -/
structure Table where
  name : String
  aliasName : Option String := none
  metadata : TableMetadata
deriving DecidableEq, Repr

/-- How many rows are wanted, and how many are passed over before them. -/
structure Limit where
  count : UInt64
  offset : Option UInt64 := none
deriving DecidableEq, Repr

/-- Which rows without a partner a join keeps. -/
inductive JoinKind
  | inner
  | leftOuter
  | rightOuter
  | fullOuter
deriving DecidableEq, Repr

mutual

/-- A part of a query. -/
inductive Node
  /-- A statement; its FROM clause is a table or a join. -/
  | select (list : SelectList) (source : Node) (filter : Option Node) (groupBy : Option (List Node))
      (having : Option Node) (orderBy : Option (List SortItem)) (limit : Option Limit)
  | selectList (list : SelectList)
  | table (table : Table)
  | join (kind : JoinKind) (left right condition : Node)
  | column (column : Column)
  | literal (literal : Literal)
  | predicate (predicate : Predicate)
  | scalar (function : ScalarFunction) (arguments : List Node)
  /-- A part of a date, named by its unit. -/
  | extract (unit : String) (argument : Node)
  /-- With a basis, the branches hold values that it is compared with. -/
  | case (basis : Option Node) (branches : List Branch) (otherwise : Option Node)
  | cast (argument : Node) (type : CanonicalType)
  /-- Without arguments the call counts rows. -/
  | aggregate (function : AggregateFunction) (arguments : List Node) (distinct : Bool)
  | groupConcat (argument : Node) (distinct : Bool) (orderBy : Option (List SortItem))
      (separator : Option String)
  | orderBy (items : List SortItem)
  | groupBy (keys : List Node)
  | limit (limit : Limit)

/-- What a statement selects. -/
inductive SelectList
  /-- One row for each match, with any value in it. -/
  | anyValue
  | wildcard
  | expressions (items : List Node)

/-- A condition. -/
inductive Predicate
  | and (operands : List Node)
  | or (operands : List Node)
  | not (operand : Node)
  | equal (left right : Node)
  | notEqual (left right : Node)
  | less (left right : Node)
  | lessEqual (left right : Node)
  | like (value pattern : Node) (escape : Option Node)
  | regexp (value pattern : Node)
  | between (value low high : Node)
  | inList (value : Node) (candidates : List Node)
  | isNull (operand : Node)
  | isNotNull (operand : Node)

/-- One branch of a CASE. -/
inductive Branch
  | mk (condition result : Node)

/-- One key of an ORDER BY. -/
inductive SortItem
  | mk (key : Node) (ascending nullsLast : Bool)

end

/-- What logs and messages call a node. -/
inductive NodeKind
  | select
  | selectList
  | table
  | join
  | column
  | literal
  | predicate
  | scalar
  | extract
  | case
  | cast
  | aggregate
  | groupConcat
  | orderBy
  | groupBy
  | limit
deriving DecidableEq, Repr

namespace NodeKind

/-- The name of a kind. -/
def name : NodeKind → String
  | .select => "StatementSelect"
  | .selectList => "SelectList"
  | .table => "Table"
  | .join => "Join"
  | .column => "Column"
  | .literal => "Literal"
  | .predicate => "Predicate"
  | .scalar => "FunctionScalar"
  | .extract => "FunctionScalarExtract"
  | .case => "FunctionScalarCase"
  | .cast => "FunctionScalarCast"
  | .aggregate => "FunctionAggregate"
  | .groupConcat => "FunctionAggregateGroupConcat"
  | .orderBy => "OrderBy"
  | .groupBy => "GroupBy"
  | .limit => "Limit"

end NodeKind

namespace Column

/-- The name of the column. -/
def name (c : Column) : String := c.metadata.name

/-- The table that the column is qualified with; an empty name qualifies nothing. -/
def qualifier (c : Column) : Option String := (c.tableAlias <|> c.tableName).filter (· ≠ "")

end Column

namespace Table

/-- The name that columns of this table are qualified with. -/
def qualifier (t : Table) : String := t.aliasName.getD t.name

end Table

namespace Node

/-- The kind of a node. -/
def kind : Node → NodeKind
  | .select .. => .select
  | .selectList .. => .selectList
  | .table .. => .table
  | .join .. => .join
  | .column .. => .column
  | .literal .. => .literal
  | .predicate .. => .predicate
  | .scalar .. => .scalar
  | .extract .. => .extract
  | .case .. => .case
  | .cast .. => .cast
  | .aggregate .. => .aggregate
  | .groupConcat .. => .groupConcat
  | .orderBy .. => .orderBy
  | .groupBy .. => .groupBy
  | .limit .. => .limit

/-- The node may be a FROM clause. -/
def isRelation : Node → Bool
  | .table .. | .join .. => true
  | _ => false

/-- The node is a join. -/
def isJoin : Node → Bool
  | .join .. => true
  | _ => false

/-- The tables of a FROM clause, from left to right. -/
def tables : Node → List Table
  | .table t => [t]
  | .join _ l r _ => l.tables ++ r.tables
  | _ => []

/-- Induction over a FROM clause: a table, a join of two FROM clauses, or a node that stands where neither is. -/
theorem source_induction {motive : Node → Prop} (table : ∀ t, motive (.table t))
    (join : ∀ kind left right condition, motive left → motive right →
      motive (.join kind left right condition))
    (other : ∀ node, node.isRelation = false → motive node) (node : Node) : motive node := by
  induction node using tables.induct with
  | case1 t => exact table t
  | case2 kind left right condition hleft hright => exact join kind left right condition hleft hright
  | case3 node htable hjoin =>
    refine other node ?_
    cases node with
    | table t => exact absurd rfl (htable t)
    | join kind left right condition => exact absurd rfl (hjoin kind left right condition)
    | _ => rfl

theorem tables_eq_nil {node : Node} (h : node.isRelation = false) : node.tables = [] := by
  cases node with
  | table | join => cases h
  | _ => rfl

/-- The call that counts rows. -/
def countStar : Node := .aggregate .count [] false

end Node

end Pushdown
