import Pushdown.Proofs.Postgres.Wildcard
import Pushdown.Proofs.Query.Phrase
import Pushdown.Proofs.Sql.Reading

/-!
# `Proofs.Query.Slots` — the tokens of a whole query

What `Node.phrase` is to expressions, `Node.slots` is to every node: the tokens of the SQL that stands for it, with
a mark on those that carry a text of the query. A select list depends on the remote types of columns, a FROM clause
on the schema of the context.

## Contents

* `Column.itemSlots`, `SelectList.slots` — select lists.
* `sourceSlots` — FROM clauses.
* `Node.slots` — any node, a clause on its own included.
-/

namespace Pushdown

open Sql (Token Slot Phrase)

/-- The tokens of an expression. -/
abbrev Node.expressionSlots (folding : CaseFolding) (n : Node) : List Slot :=
  (n.phrase folding).yield .fixed

/-- Keywords. -/
def keywords (ws : List String) : List Slot := ws.map fun w => .fixed (.word w)

/-- Parts with commas between them. -/
abbrev listedSlots (parts : List (List Slot)) : List Slot := Sql.listed .fixed parts

/-! ## Select lists -/

/-- The tokens of a column with its cast. -/
def ProjectionCast.slots (column : Phrase Slot) : ProjectionCast → List Slot
  | .none => column.yield .fixed
  | .varchar => (Phrase.cast column [.word "VARCHAR"]).yield .fixed
  | .integer typeName => (Phrase.cast column [.word typeName]).yield .fixed
  | .unsupported typeName =>
    (Phrase.cast (.atom (.fixed (.string (typeName ++ " NOT SUPPORTED")))) [.word "VARCHAR"]).yield
      .fixed ++ keywords ["AS", "not_supported"]

section Clauses

variable (folding : CaseFolding)

/-- The tokens of a column that stands directly in a select list. -/
def Column.itemSlots (c : Column) : List Slot :=
  match c.metadata.projectionCast with
  | .ok cast => cast.slots (c.phrase folding)
  | .error _ => []

/-- The tokens of an item of a select list. -/
def Node.itemSlots : Node → List Slot
  | .column c => c.itemSlots folding
  | node => node.expressionSlots folding

/-- The column needs no cast. -/
def ColumnMetadata.castFree (c : ColumnMetadata) : Bool :=
  match c.projectionCast with
  | .ok .none => true
  | _ => false

/-- The tokens of `*` over the columns of a FROM clause. -/
def wildcardSlots (columns : List Column) : List Slot :=
  if columns.all (·.metadata.castFree) then [.fixed (.operator "*")]
  else listedSlots (columns.map (·.itemSlots folding))

/-- The tokens of a select list over a FROM clause, if there is one. -/
def SelectList.slots (source : Option Node) : SelectList → List Slot
  | .anyValue => [.fixed (.number "1")]
  | .wildcard =>
    match source with
    | none => [.fixed (.operator "*")]
    | some node => wildcardSlots folding (node.fromColumns node.isJoin)
  | .expressions items => listedSlots (items.map (·.itemSlots folding))

/-! ## Other clauses -/

/-- The schema that stands before the table names, if the context names one. -/
def schemaNames (context : GenerationContext) : List String :=
  match context.schema with
  | some name => if name ≠ "" then [folding.written name] else []
  | none => []

/-- The tokens of a table of a FROM clause. -/
def Table.tokens (context : GenerationContext) (t : Table) : List Token :=
  Sql.pathTokens (schemaNames folding context ++ [folding.written t.name]) ++
    match t.aliasName.filter (· ≠ t.name) with
    | some name => [.word "AS", .name (folding.written name)]
    | none => []

/-- The words of a join. -/
def JoinKind.keywords : JoinKind → List String
  | .inner => ["INNER", "JOIN"]
  | .leftOuter => ["LEFT", "OUTER", "JOIN"]
  | .rightOuter => ["RIGHT", "OUTER", "JOIN"]
  | .fullOuter => ["FULL", "JOIN"]

/-- The tokens of a FROM clause. A join on the right of a join stands between parentheses. -/
def sourceSlots (context : GenerationContext) : Node → List Slot
  | .table t => (t.tokens folding context).map .fixed
  | .join kind left right condition =>
    sourceSlots context left ++ keywords kind.keywords ++
      (match right with
        | .table t => (t.tokens folding context).map .fixed
        | right => Sql.bracketed .fixed (sourceSlots context right)) ++
      keywords ["ON"] ++ condition.expressionSlots folding
  | _ => []

theorem sourceSlots_eq_nil {n : Node} (h : n.isRelation = false) (context : GenerationContext) :
    sourceSlots folding context n = [] := by
  cases n with
  | table | join => cases h
  | _ => rfl

/-- The tokens of a sort key. -/
def sortSlots : SortItem → List Slot
  | .mk key ascending nullsLast =>
    key.expressionSlots folding ++ (if ascending then [] else keywords ["DESC"]) ++
      if nullsLast = NullSorting.high.nullsLast ascending then []
      else keywords ["NULLS", if nullsLast then "LAST" else "FIRST"]

/-- The tokens of an ordering, if there is one. -/
def orderingSlots : Option (List SortItem) → List Slot
  | none => []
  | some items => keywords ["ORDER", "BY"] ++ listedSlots (items.map (sortSlots folding))

/-- The tokens of several expressions are those of their phrases. -/
theorem yieldAll_phrases (ns : List Node) :
    Sql.yieldAll .fixed (phrases folding ns) = ns.map (·.expressionSlots folding) := by
  induction ns with
  | nil => rfl
  | cons n ns ih => rw [phrases, Sql.yieldAll, ih, List.map_cons]

/-- The tokens of a grouping, if there is one. -/
def groupingSlots : Option (List Node) → List Slot
  | none => []
  | some keys => keywords ["GROUP", "BY"] ++ listedSlots (keys.map (·.expressionSlots folding))

/-- The tokens of a condition behind its keyword, if there is one. -/
def conditionSlots (keyword : String) : Option Node → List Slot
  | none => []
  | some n => keywords [keyword] ++ n.expressionSlots folding

/-- The tokens of a limit. -/
def limitTokens (l : Limit) : List Token :=
  [.word "LIMIT", .number (intText l.count.toNat)] ++
    match l.offset with
    | some n => [.word "OFFSET", .number (intText n.toNat)]
    | none => []

/-- The tokens of a limit, if there is one. -/
def limitSlots : Option Limit → List Slot
  | none => []
  | some l => (limitTokens l).map .fixed

/-- The tokens of any node. -/
def Node.slots (context : GenerationContext) : Node → List Slot
  | .select list source filter keys having ordering bound =>
    keywords ["SELECT"] ++ list.slots folding (some source) ++ keywords ["FROM"] ++
      sourceSlots folding context source ++ conditionSlots folding "WHERE" filter ++
      groupingSlots folding keys ++ conditionSlots folding "HAVING" having ++
      orderingSlots folding ordering ++ limitSlots bound
  | .selectList list => list.slots folding none
  | .table t => sourceSlots folding context (.table t)
  | .join kind left right condition => sourceSlots folding context (.join kind left right condition)
  | .orderBy items => orderingSlots folding (some items)
  | .groupBy keys => groupingSlots folding (some keys)
  | .limit l => limitSlots (some l)
  | node => node.expressionSlots folding

end Clauses

end Pushdown
