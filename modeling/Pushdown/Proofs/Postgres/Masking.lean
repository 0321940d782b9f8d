import Pushdown.Proofs.Postgres.Wildcard

/-!
# `Proofs.Postgres.Masking` — the metadata of columns that SQL does not depend on

A column of a query carries what discovery has found out about it. Of that, SQL shows the name, and the select list
shows the remote type, which stands in the notes: of columns that are selected, and of columns of the tables that a `*`
stands for. Masking replaces everything else by a constant. Two trees that become equal by it differ only in what is
masked, and the theorem is that they are written in the same way, refusals and events included: notes that cannot be
read do no harm as long as nobody selects their column.

## Contents

* `Place`, `Node.masked` — where a node stands, and the tree without what SQL does not depend on.
* `expr_masked`, `source_masked` — expressions and FROM clauses, for every generator.
* `selectItems_masked` — select lists, for that of PostgreSQL.
* `Adapter.masked_metadata_has_no_part` — trees that differ only in what is masked.
-/

namespace Pushdown

/-! ## Masking -/

/-- Where a node stands, as far as the metadata of columns are concerned. -/
inductive Place
  /-- Directly in a select list. -/
  | item
  /-- In the FROM clause of a statement that selects `*`. -/
  | expanded
  | elsewhere
deriving DecidableEq

/-- Where the operands of a join stand. -/
def Place.operand : Place → Place
  | .expanded => .expanded
  | _ => .elsewhere

/-- Where the FROM clause of a statement stands. -/
def SelectList.sourcePlace : SelectList → Place
  | .wildcard => .expanded
  | _ => .elsewhere

/-- The column by its name, and by its notes if they are kept. -/
def ColumnMetadata.masked (notesKept : Bool) (c : ColumnMetadata) : ColumnMetadata where
  name := c.name
  notes := if notesKept then c.notes else ""
  type := .boolean

/-- The reference with its column masked, and without its number. -/
def Column.masked (notesKept : Bool) (c : Column) : Column :=
  { c with id := 0, metadata := c.metadata.masked notesKept }

/-- The table with its columns masked. -/
def Table.masked (notesKept : Bool) (t : Table) : Table :=
  { t with metadata := { t.metadata with columns := t.metadata.columns.map (·.masked notesKept) } }

mutual

/-- The tree with all columns masked. Notes are kept directly in a select list and in the tables of a `*`. -/
def Node.masked (place : Place) : Node → Node
  | .column c => .column (c.masked (place = .item))
  | .table t => .table (t.masked (place = .expanded))
  | .join kind left right condition =>
    .join kind (left.masked place.operand) (right.masked place.operand) (condition.masked .elsewhere)
  | .select list source filter keys having ordering limit =>
    .select list.masked (source.masked list.sourcePlace) (maskedOption filter) (maskedKeys keys)
      (maskedOption having) (maskedOrdering ordering) limit
  | .selectList list => .selectList list.masked
  | .literal l => .literal l
  | .predicate p => .predicate p.masked
  | .scalar function arguments => .scalar function (maskedAll .elsewhere arguments)
  | .extract unit argument => .extract unit (argument.masked .elsewhere)
  | .case basis branches otherwise =>
    .case (maskedOption basis) (maskedBranches branches) (maskedOption otherwise)
  | .cast argument type => .cast (argument.masked .elsewhere) type
  | .aggregate function arguments distinct => .aggregate function (maskedAll .elsewhere arguments) distinct
  | .groupConcat argument distinct ordering separator =>
    .groupConcat (argument.masked .elsewhere) distinct (maskedOrdering ordering) separator
  | .orderBy items => .orderBy (maskedItems items)
  | .groupBy keys => .groupBy (maskedAll .elsewhere keys)
  | .limit l => .limit l

/-- Only here is a column an item by itself, with notes that count. -/
def SelectList.masked : SelectList → SelectList
  | .anyValue => .anyValue
  | .wildcard => .wildcard
  | .expressions items => .expressions (maskedAll .item items)

def Predicate.masked : Predicate → Predicate
  | .and operands => .and (maskedAll .elsewhere operands)
  | .or operands => .or (maskedAll .elsewhere operands)
  | .not operand => .not (operand.masked .elsewhere)
  | .equal left right => .equal (left.masked .elsewhere) (right.masked .elsewhere)
  | .notEqual left right => .notEqual (left.masked .elsewhere) (right.masked .elsewhere)
  | .less left right => .less (left.masked .elsewhere) (right.masked .elsewhere)
  | .lessEqual left right => .lessEqual (left.masked .elsewhere) (right.masked .elsewhere)
  | .like value pattern escape =>
    .like (value.masked .elsewhere) (pattern.masked .elsewhere) (maskedOption escape)
  | .regexp value pattern => .regexp (value.masked .elsewhere) (pattern.masked .elsewhere)
  | .between value low high =>
    .between (value.masked .elsewhere) (low.masked .elsewhere) (high.masked .elsewhere)
  | .inList value candidates => .inList (value.masked .elsewhere) (maskedAll .elsewhere candidates)
  | .isNull operand => .isNull (operand.masked .elsewhere)
  | .isNotNull operand => .isNotNull (operand.masked .elsewhere)

def maskedAll (place : Place) : List Node → List Node
  | [] => []
  | n :: ns => n.masked place :: maskedAll place ns

def maskedOption : Option Node → Option Node
  | none => none
  | some n => some (n.masked .elsewhere)

def maskedKeys : Option (List Node) → Option (List Node)
  | none => none
  | some keys => some (maskedAll .elsewhere keys)

def maskedBranches : List Branch → List Branch
  | [] => []
  | .mk condition result :: rest =>
    .mk (condition.masked .elsewhere) (result.masked .elsewhere) :: maskedBranches rest

def maskedItems : List SortItem → List SortItem
  | [] => []
  | .mk key ascending nullsLast :: rest =>
    .mk (key.masked .elsewhere) ascending nullsLast :: maskedItems rest

def maskedOrdering : Option (List SortItem) → Option (List SortItem)
  | none => none
  | some items => some (maskedItems items)

end

section Shape

theorem kind_masked (place : Place) (n : Node) : (n.masked place).kind = n.kind := by
  cases n <;> rfl

theorem isRelation_masked (place : Place) (n : Node) : (n.masked place).isRelation = n.isRelation := by
  cases n <;> rfl

theorem isEmpty_maskedAll (place : Place) (ns : List Node) :
    (maskedAll place ns).isEmpty = ns.isEmpty := by
  cases ns <;> rfl

theorem isEmpty_maskedBranches (branches : List Branch) :
    (maskedBranches branches).isEmpty = branches.isEmpty := by
  cases branches with
  | nil => rfl
  | cons b bs =>
    cases b
    rfl

theorem isEmpty_maskedItems (items : List SortItem) : (maskedItems items).isEmpty = items.isEmpty := by
  cases items with
  | nil => rfl
  | cons item items =>
    cases item
    rfl

theorem isSome_maskedOrdering (ordering : Option (List SortItem)) :
    (maskedOrdering ordering).isSome = ordering.isSome := by
  cases ordering <;> rfl

/-- An escape is a string or is refused by its kind. -/
theorem escapeText_masked (escape : Option Node) : escapeText (maskedOption escape) = escapeText escape := by
  cases escape with
  | none => rfl
  | some n =>
    cases n with
    | literal l => cases l <;> rfl
    | _ => rfl

end Shape

/-! ## Expressions -/

section Expressions

variable (g : Generator)

mutual

/-- An expression is written by the names of its columns. -/
theorem expr_masked (place : Place) : ∀ n : Node, g.expr (n.masked place) = g.expr n
  | .column _ => rfl
  | .literal _ => rfl
  | .predicate p => by
    simp only [Node.masked, Generator.expr, predicate_masked p]
  | .scalar _ arguments => by
    simp only [Node.masked, Generator.expr, exprs_masked .elsewhere arguments]
  | .extract _ argument => by
    simp only [Node.masked, Generator.expr, expr_masked .elsewhere argument]
  | .case basis branches otherwise => by
    simp only [Node.masked, Generator.expr, isEmpty_maskedBranches, branches_masked branches,
      optionalExpr_masked basis, optionalExpr_masked otherwise]
  | .cast argument _ => by
    simp only [Node.masked, Generator.expr, expr_masked .elsewhere argument]
  | .aggregate _ arguments _ => by
    simp only [Node.masked, Generator.expr, exprs_masked .elsewhere arguments]
  | .groupConcat argument _ ordering _ => by
    simp only [Node.masked, Generator.expr, expr_masked .elsewhere argument, optionalSortKeys_masked ordering,
      isSome_maskedOrdering]
  -- a clause is refused whatever it is made of
  | .select .. => rfl
  | .selectList .. => rfl
  | .table .. => rfl
  | .join .. => rfl
  | .orderBy .. => rfl
  | .groupBy .. => rfl
  | .limit .. => rfl

theorem exprs_masked (place : Place) : ∀ ns : List Node, g.exprs (maskedAll place ns) = g.exprs ns
  | [] => rfl
  | n :: ns => by
    simp only [maskedAll, Generator.exprs, expr_masked place n, exprs_masked place ns]

theorem optionalExpr_masked : ∀ n : Option Node, g.optionalExpr (maskedOption n) = g.optionalExpr n
  | none => rfl
  | some n => by
    simp only [maskedOption, Generator.optionalExpr, expr_masked .elsewhere n]

/-- A condition is written from the names of its columns alone: all its operands stand elsewhere than in a select
list. -/
theorem predicate_masked : ∀ p : Predicate, g.predicate p.masked = g.predicate p
  | .and operands => by
    simp only [Predicate.masked, Generator.predicate, exprs_masked .elsewhere operands]
  | .or operands => by
    simp only [Predicate.masked, Generator.predicate, exprs_masked .elsewhere operands]
  | .not operand => by
    simp only [Predicate.masked, Generator.predicate, expr_masked .elsewhere operand]
  | .equal left right => by
    simp only [Predicate.masked, Generator.predicate, expr_masked .elsewhere left, expr_masked .elsewhere right]
  | .notEqual left right => by
    simp only [Predicate.masked, Generator.predicate, expr_masked .elsewhere left, expr_masked .elsewhere right]
  | .less left right => by
    simp only [Predicate.masked, Generator.predicate, expr_masked .elsewhere left, expr_masked .elsewhere right]
  | .lessEqual left right => by
    simp only [Predicate.masked, Generator.predicate, expr_masked .elsewhere left, expr_masked .elsewhere right]
  | .like value pattern escape => by
    simp only [Predicate.masked, Generator.predicate, expr_masked .elsewhere value,
      expr_masked .elsewhere pattern, escapeText_masked escape]
  | .regexp value pattern => by
    simp only [Predicate.masked, Generator.predicate, expr_masked .elsewhere value,
      expr_masked .elsewhere pattern]
  | .between value low high => by
    simp only [Predicate.masked, Generator.predicate, expr_masked .elsewhere value, expr_masked .elsewhere low,
      expr_masked .elsewhere high]
  | .inList value candidates => by
    simp only [Predicate.masked, Generator.predicate, isEmpty_maskedAll, expr_masked .elsewhere value,
      exprs_masked .elsewhere candidates]
  | .isNull operand => by
    simp only [Predicate.masked, Generator.predicate, expr_masked .elsewhere operand]
  | .isNotNull operand => by
    simp only [Predicate.masked, Generator.predicate, expr_masked .elsewhere operand]

theorem branches_masked : ∀ bs : List Branch, g.branches (maskedBranches bs) = g.branches bs
  | [] => rfl
  | .mk condition result :: rest => by
    simp only [maskedBranches, Generator.branches, expr_masked .elsewhere condition,
      expr_masked .elsewhere result, branches_masked rest]

theorem sortKeysFrom_masked : ∀ items : List SortItem,
    g.sortKeysFrom (maskedItems items) = g.sortKeysFrom items
  | [] => rfl
  | .mk key _ _ :: rest => by
    simp only [maskedItems, Generator.sortKeysFrom, expr_masked .elsewhere key, sortKeysFrom_masked rest]

theorem optionalSortKeys_masked : ∀ ordering : Option (List SortItem),
    g.optionalSortKeys (maskedOrdering ordering) = g.optionalSortKeys ordering
  | none => rfl
  | some items => by
    simp only [maskedOrdering, Generator.optionalSortKeys, isEmpty_maskedItems, sortKeysFrom_masked items]

end

theorem groupKeys_masked (keys : List Node) :
    g.groupKeys (maskedAll .elsewhere keys) = g.groupKeys keys := by
  unfold Generator.groupKeys
  rw [isEmpty_maskedAll, exprs_masked]

theorem operand_masked {n : Node} {place : Place} (h : g.source (n.masked place) = g.source n) :
    g.operand (n.masked place) = g.operand n := by
  cases n with
  | table t => rfl
  | _ => exact congrArg (· >>= fun nested => pure (Sql.Factor.nested nested)) h

/-- A FROM clause is written by the names of its tables. -/
theorem source_masked (n : Node) (place : Place) : g.source (n.masked place) = g.source n := by
  induction n using Node.source_induction generalizing place with
  | table t => rfl
  | join kind left right condition hleft hright =>
    have hoperand := operand_masked g (hright place.operand)
    rw [Node.masked, Generator.source_join, Generator.source_join, hleft, hoperand, expr_masked]
  | other n hn =>
    rw [g.source_eq_refuse hn, g.source_eq_refuse ((isRelation_masked place n).trans hn), kind_masked]

end Expressions

/-! ## Select lists -/

section SelectLists

variable (d : Dialect)

/-- Directly in a select list, a column is written by its name and its notes. -/
theorem projectColumn_masked (c : Column) : projectColumn d (c.masked true) = projectColumn d c := rfl

theorem projectionCast_masked (c : ColumnMetadata) : (c.masked true).projectionCast = c.projectionCast := rfl

theorem needsCast_masked (cs : List ColumnMetadata) :
    needsCast (cs.map (·.masked true)) = needsCast cs := by
  induction cs with
  | nil => rfl
  | cons c cs ih =>
    rw [List.map_cons, needsCast, needsCast, projectionCast_masked, ih]

/-- The tables of a `*` keep the notes of their columns. -/
theorem tables_masked (n : Node) : (n.masked .expanded).tables = n.tables.map (·.masked true) := by
  induction n using Node.source_induction with
  | table t => rfl
  | join kind left right condition ihl ihr =>
    show (left.masked .expanded).tables ++ (right.masked .expanded).tables = (left.tables ++ right.tables).map _
    rw [ihl, ihr, List.map_append]
  | other n hn =>
    rw [Node.tables_eq_nil hn, Node.tables_eq_nil ((isRelation_masked .expanded n).trans hn), List.map_nil]

/-- The columns that `*` stands for are masked in their tables; their notes are kept there. -/
theorem columnsOf_masked (qualified : Bool) (tables : List Table) :
    columnsOf qualified (tables.map (·.masked true)) = (columnsOf qualified tables).map (·.masked true) := by
  induction tables with
  | nil => rfl
  | cons t ts ih =>
    unfold columnsOf at ih ⊢
    rw [List.map_cons, List.flatMap_cons, List.flatMap_cons, ih, List.map_append]
    congr 1
    simp only [Table.masked, List.map_map]
    rfl

theorem mapM_expandedColumns (n : Node) :
    (expandedColumns n).mapM (projectColumn d) = (columnsOf n.isJoin n.tables).mapM (projectColumn d) :=
  mapM_projectColumn_mapIdx d _ id

/-- What `*` stands for is written by the names and the notes of its columns. -/
theorem expandWildcard_masked (n : Node) :
    expandWildcard d (some (n.masked .expanded)) = expandWildcard d (some n) := by
  have hcolumns : (n.tables.map (·.masked true)).flatMap (·.metadata.columns) =
      (n.tables.flatMap (·.metadata.columns)).map (·.masked true) := by
    rw [List.map_flatMap, List.flatMap_map]
    rfl
  have hjoin : (n.masked .expanded).isJoin = n.isJoin := by
    cases n <;> rfl
  have hlisted : (expandedColumns (n.masked .expanded)).mapM (projectColumn d) =
      (expandedColumns n).mapM (projectColumn d) := by
    rw [mapM_expandedColumns, mapM_expandedColumns, hjoin, tables_masked, columnsOf_masked, List.mapM_map]
    exact congrArg (List.mapM · _) (funext (projectColumn_masked d))
  simp only [expandWildcard, tables_masked, hcolumns, needsCast_masked, List.length_map, hlisted]

variable (folding : CaseFolding) (context : GenerationContext)

theorem projected_masked (n : Node) :
    (Generator.postgres folding context).projected (n.masked .item) =
      (Generator.postgres folding context).projected n := by
  cases n with
  | column c => exact congrArg Traced.ofExcept (projectColumn_masked _ c)
  | _ => exact congrArg (· >>= fun e => pure (Sql.Item.expr e)) (expr_masked _ .item _)

theorem projectedItems_masked (ns : List Node) :
    (Generator.postgres folding context).projectedItems (maskedAll .item ns) =
      (Generator.postgres folding context).projectedItems ns := by
  induction ns with
  | nil => rfl
  | cons n ns ih => rw [maskedAll, Generator.projectedItems, Generator.projectedItems, projected_masked, ih]

/-- A select list is written by the names and the notes of its columns, or of those that `*` stands for. -/
theorem selectItems_masked (list : SelectList) (source : Option Node) :
    (Generator.postgres folding context).selectItems (source.map (·.masked list.sourcePlace)) list.masked =
      (Generator.postgres folding context).selectItems source list := by
  cases list with
  | anyValue => rfl
  | wildcard =>
    cases source with
    | none => rfl
    | some source => exact expandWildcard_masked _ source
  | expressions nodes =>
    simp only [SelectList.masked, Generator.selectItems, isEmpty_maskedAll, projectedItems_masked]

end SelectLists

/-! ## Statements -/

section Statements

variable (folding : CaseFolding) (context : GenerationContext)

/-- A statement is written alike from its masked clauses, the FROM clause masked as its select list needs it. -/
theorem statement_masked (list : SelectList) (relation : Node) (filter : Option Node)
    (keys : Option (List Node)) (having : Option Node) (ordering : Option (List SortItem)) (limit : Option Limit) :
    (Generator.postgres folding context).statement list.masked (relation.masked list.sourcePlace)
        (maskedOption filter) (maskedKeys keys) (maskedOption having) (maskedOrdering ordering) limit =
      (Generator.postgres folding context).statement list relation filter keys having ordering limit := by
  have hitems := selectItems_masked folding context list (some relation)
  rw [Option.map_some] at hitems
  unfold Generator.statement
  rw [isRelation_masked, kind_masked, hitems, source_masked, optionalExpr_masked, optionalExpr_masked,
    optionalSortKeys_masked]
  cases keys with
  | none => rfl
  | some keys => simp only [maskedKeys, groupKeys_masked]

/-- **Any node is written alike when it is masked.** A statement by its clauses, with the place that each of them
gives to its columns; any other node as an expression or a clause by itself. -/
theorem lexemes_masked (n : Node) :
    (Generator.postgres folding context).lexemes (n.masked .elsewhere) =
      (Generator.postgres folding context).lexemes n := by
  cases n with
  | select list relation filter keys having ordering limit =>
    rw [Node.masked, Generator.lexemes, Generator.lexemes, statement_masked]
  | selectList list =>
    have hitems := selectItems_masked folding context list none
    rw [Option.map_none] at hitems
    rw [Node.masked, Generator.lexemes, Generator.lexemes, hitems]
  | table t => rfl
  | join kind left right condition =>
    have hsource := source_masked (Generator.postgres folding context) (.join kind left right condition) .elsewhere
    exact congrArg (· >>= fun source => pure source.lexemes) hsource
  | orderBy items =>
    have hkeys := optionalSortKeys_masked (Generator.postgres folding context) (some items)
    exact congrArg (· >>= fun keys => pure (Sql.orderByLexemes keys)) hkeys
  | groupBy keys =>
    rw [Node.masked, Generator.lexemes, Generator.lexemes, groupKeys_masked]
  | limit l => rfl
  | _ =>
    exact congrArg (· >>= fun e => pure (Sql.Expr.lexemes e)) (expr_masked _ .elsewhere _)

theorem compile_masked (a : Adapter) (n : Node) :
    a.compile context (n.masked .elsewhere) = a.compile context n := by
  unfold Adapter.compile Generator.generate
  rw [lexemes_masked, kind_masked]

/-- **Masked metadata have no part in SQL.** Two trees that are equal up to the number, the type, the nullability
and the comment of columns, and up to the notes of those columns that neither stand directly in a select list nor
belong to a table of a `*`, are compiled to the same text or the same refusal, with the same events. -/
theorem Adapter.masked_metadata_has_no_part (a : Adapter) {m n : Node}
    (h : m.masked .elsewhere = n.masked .elsewhere) : a.compile context m = a.compile context n := by
  rw [← compile_masked context a m, h, compile_masked context a n]

/-- Notes that cannot be read are harmless in conditions, orderings and tables. -/
theorem Adapter.unreadable_notes_have_no_part :
    let a : Adapter := { properties := { entries := [] }, filter := ⟨.convertToUpper, false⟩ }
    let column := fun (name notes : String) => ColumnMetadata.mk name notes .boolean true none
    let json := "\x7b\"jdbcDataType\":1111,\"typeName\":\"json\"\x7d"
    let query := fun (notes : String) (type : CanonicalType) (id : Nat) =>
      let key : Node := .column { metadata := column "K" notes, tableName := some "T" }
      Node.select
        (.expressions [.column { id, metadata := { column "DOC" json with type, comment := some notes } }])
        (.join .inner (.table { name := "T", metadata := { name := "T", columns := [column "K" notes] } })
          (.table { name := "U", metadata := { name := "U", columns := [column "DOC" notes] } })
          (.predicate (.equal key (.literal (.string "x")))))
        (some (.predicate (.isNull key))) (some [key]) none (some [.mk key true true]) none
    ¬ (column "K" "no notes").readable ∧ (column "K" json).readable ∧
      a.compile {} (query "no notes" .date 7) = a.compile {} (query json .boolean 0) := by
  intro a column json query
  refine ⟨by decide +kernel, by decide +kernel, ?_⟩
  exact masked_metadata_has_no_part {} a rfl

end Statements

end Pushdown
