import Mathlib.Data.List.Forall2
import Pushdown.Proofs.Generation.JoinTree
import Pushdown.Proofs.Postgres.Folding
import Pushdown.Proofs.Postgres.Wildcard

/-!
# `Proofs.Postgres.Qualification` — the columns that `*` stands for, behind the names of their tables

Where `*` over a join is replaced by columns, each is written behind a name of its table. PostgreSQL accepts that name
only if it is the one under which the FROM clause exposes the table, and the two are chosen apart from each other: the
columns take the alias that the query gives, while the FROM clause leaves out an alias that repeats the name of the
table and puts the schema before that name. Both choices come to the same name.

## Contents

* `Sql.Source.factors` — the tables of a FROM clause, read off what is written.
* `Sql.Factor.exposedName?` — the name under which a table is exposed.
* `factors_source` — the tables of the query are those of the FROM clause, in the same order.
* `exposedName?_tableFactor` — the name under which a table of the query is exposed.
* `Adapter.expanded_columns_name_exposed_tables` — the columns of `*` and the tables of the FROM clause.
-/

namespace Pushdown

/-! ## The tables of a FROM clause -/

/-- The operands of a tree of joins, from left to right. -/
def JoinTree.operands {α β : Type} : JoinTree α β → List α
  | .operand a => [a]
  | .join _ left right _ => left.operands ++ right.operands

namespace Sql

/-- The tables of a FROM clause as they are written, from left to right. -/
def Source.factors (s : Source) : List Factor := s.tree.operands

/-- The name under which a FROM clause exposes a table: the alias if one is written, or else the last part of the
name. -/
def Factor.exposedName? : Factor → Option Ident
  | .table name aliasName => aliasName.or name.getLast?
  | .nested _ => none

mutual

/-- Every operand of a tree of joins is written out in it; inside parentheses the argument starts again. -/
theorem isInfix_factor : ∀ (factor operand : Factor), operand ∈ factor.tree.operands →
    operand.lexemes <:+: factor.lexemes
  | .table name aliasName, operand => by
    intro h
    obtain rfl := List.mem_singleton.mp h
    exact List.infix_rfl
  | .nested source, operand => by
    intro h
    have hsource := isInfix_source source operand h
    exact hsource.trans ⟨[.symbol "("], [.symbol ")"], rfl⟩

/-- The tables of a FROM clause are parts of its text. -/
theorem isInfix_source : ∀ (source : Source) (operand : Factor), operand ∈ source.tree.operands →
    operand.lexemes <:+: source.lexemes
  | .mk head joins, operand => by
    intro h
    rcases isInfix_joins joins head.tree operand h with hhead | hjoins
    · exact (isInfix_factor head operand hhead).trans (List.prefix_append _ _).isInfix
    · exact hjoins.trans (List.suffix_append _ _).isInfix

/-- An operand of the joins was there before them or is written behind one of them. -/
theorem isInfix_joins : ∀ (joins : List Join) (read : JoinTree Factor Expr) (operand : Factor),
    operand ∈ (treeBehind read joins).operands →
    operand ∈ read.operands ∨ operand.lexemes <:+: joinsLexemes joins
  | [], read, operand => fun h => .inl h
  | .mk kind right condition :: joins, read, operand => by
    intro h
    rcases isInfix_joins joins _ operand h with hread | hrest
    · rcases List.mem_append.mp hread with hleft | hright
      · exact .inl hleft
      · refine .inr ((isInfix_factor right operand hright).trans ?_)
        exact ⟨.blank :: joinWords kind ++ [.blank], spaced "ON" ++ condition.lexemes ++ joinsLexemes joins,
          by simp [joinsLexemes]⟩
    · exact .inr (hrest.trans (List.suffix_append _ _).isInfix)

end

/-- The last part of a qualified name is written last. -/
theorem exists_pathLexemes_append (before : List Ident) (name : Ident) :
    ∃ ls, pathLexemes (before ++ [name]) = ls ++ [name.lexeme] := by
  induction before with
  | nil => exact ⟨[], rfl⟩
  | cons part before ih =>
    obtain ⟨ls, hls⟩ := ih
    refine ⟨part.lexeme :: .symbol "." :: ls, ?_⟩
    have hcons : pathLexemes (part :: (before ++ [name])) =
        part.lexeme :: .symbol "." :: pathLexemes (before ++ [name]) := by
      cases before <;> rfl
    rw [List.cons_append, hcons, hls]
    rfl

/-- The name under which a table is exposed is the last thing that is written for it. -/
theorem exists_lexemes_of_exposedName? {factor : Factor} {name : Ident}
    (h : factor.exposedName? = some name) : ∃ before, factor.lexemes = before ++ [name.lexeme] := by
  cases factor with
  | nested source => cases h
  | table path aliasName =>
    cases aliasName with
    | some aliasName =>
      cases h
      exact ⟨pathLexemes path ++ spaced "AS", by simp [Factor.lexemes]⟩
    | none =>
      obtain ⟨before, rfl⟩ := List.getLast?_eq_some_iff.mp h
      obtain ⟨ls, hls⟩ := exists_pathLexemes_append before name
      exact ⟨ls, by simp [Factor.lexemes, hls]⟩

end Sql

section Sources

variable (g : Generator)

/-- The operands of a written tree are the tables of the query. -/
theorem operands_eq_tables {node : Node} {u : JoinTree Sql.Factor Sql.Expr}
    (h : node.joinTree.Forall₂ g.WritesTable g.WritesCondition u) :
    u.operands = node.tables.map (tableFactor g.dialect g.context) := by
  induction node using Node.source_induction generalizing u with
  | table t =>
    obtain ⟨_, ⟨⟩, rfl⟩ := h
    rfl
  | join kind left right condition ihleft ihright =>
    cases h with
    | join hleft hright hcondition =>
      rw [JoinTree.operands, Node.tables, List.map_append, ihleft hleft, ihright hright]
  | other node hnode =>
    cases node with
    | table | join => cases hnode
    | _ => obtain ⟨_, ⟨⟩, _⟩ := h

/-- **The tables of a FROM clause are those of the query, in the same order.** -/
theorem factors_source {node : Node} {s : Sql.Source} (h : (g.source node).result = .ok s) :
    s.factors = node.tables.map (tableFactor g.dialect g.context) :=
  operands_eq_tables g (forall₂_source g h)

end Sources

/-! ## The names of tables -/

/-- A table is exposed under the name that its columns are qualified with, whether or not its alias is written. -/
theorem exposedName?_tableFactor (d : Dialect) (context : GenerationContext) (t : Table) :
    (tableFactor d context t).exposedName? = some (d.quote t.qualifier) := by
  unfold tableFactor Sql.Factor.exposedName? Table.qualifier
  cases t.aliasName with
  | none => simp
  | some aliasName =>
    by_cases hsame : aliasName = t.name
    · simp [Option.filter_some, hsame]
    · simp [Option.filter_some, hsame]

/-- A column of a join is written behind the name under which its table is exposed. -/
theorem columnExpr_qualified (d : Dialect) {t : Table} (h : t.qualifier ≠ "") (c : ColumnMetadata) :
    columnExpr d { metadata := c, tableAlias := some t.qualifier } =
      .path [d.quote t.qualifier, d.quote c.name] := by
  have hqualifier : ({ metadata := c, tableAlias := some t.qualifier } : Column).qualifier =
      some t.qualifier := by
    simp [Column.qualifier, Option.filter_some, h]
  unfold columnExpr
  rw [hqualifier]
  rfl

/-- A table is called by its other name if it has one, by its own otherwise; neither is empty. -/
theorem qualifier_ne_empty {t : Table} (hname : t.name ≠ "") (halias : t.aliasName ≠ some "") :
    t.qualifier ≠ "" := by
  unfold Table.qualifier
  cases h : t.aliasName with
  | none => exact hname
  | some aliasName =>
    rintro rfl
    exact halias h

/-! ## The columns of `*` -/

namespace Sql

/-- The name that an item of a select list refers to, with the names in front of it. A cast does not count. -/
def Item.reference? : Item → Option (List Ident)
  | .expr (.path parts) => some parts
  | .expr (.cast (.path parts) _) => some parts
  | _ => none

end Sql

/-- The table is part of the FROM clause, and the name that exposes it there is written last and reads as the name that
its columns are qualified with. -/
structure Exposes (folding : CaseFolding) (source : Sql.Source) (t : Table) (factor : Sql.Factor) : Prop where
  written : factor.lexemes <:+: source.lexemes
  exposed : ∃ name before, factor.exposedName? = some name ∧ factor.lexemes = before ++ [name.lexeme] ∧
    Sql.lex name.lexeme.chars = some [.name (folding.written t.qualifier)]

/-- Every column of the tables with the operand of the FROM clause that stands for its table. -/
def ownedColumns (tables : List Table) (factors : List Sql.Factor) : List (Sql.Factor × ColumnMetadata) :=
  (tables.zip factors).flatMap fun (t, factor) => t.metadata.columns.map fun c => (factor, c)

/-- The item is the column behind the name that exposes its table, with the cast that its type needs, and it refers to
nothing else. -/
def StandsFor (folding : CaseFolding) (owned : Sql.Factor × ColumnMetadata) (item : Sql.Item) : Prop :=
  ∃ name cast, owned.1.exposedName? = some name ∧ owned.2.projectionCast = .ok cast ∧
    item = cast.apply (.path [name, folding.quote owned.2.name]) ∧
    ∀ parts, item.reference? = some parts → parts = [name, folding.quote owned.2.name]

theorem reference?_apply (cast : ProjectionCast) (path : List Sql.Ident) :
    ∀ parts, (cast.apply (.path path)).reference? = some parts → parts = path := by
  intro parts h
  cases cast <;> cases h <;> rfl

/-- The items of a list of columns, one by one. -/
theorem forall₂_of_mapM {ε α β : Type} {f : α → Except ε β} {as : List α} {bs : List β}
    (h : as.mapM f = .ok bs) : List.Forall₂ (fun a b => f a = .ok b) as bs := by
  induction as generalizing bs with
  | nil =>
    cases h
    exact .nil
  | cons a as ih =>
    rw [List.mapM_cons] at h
    obtain ⟨b, hb, h⟩ := Outcome.bind_eq_ok_iff.mp h
    obtain ⟨rest, hrest, h⟩ := Outcome.bind_eq_ok_iff.mp h
    cases h
    exact .cons hb (ih hrest)

section Statements

variable (folding : CaseFolding) (context : GenerationContext) {relation : Node}

/-- The tables of the FROM clause are exposed under the names that their columns are qualified with. -/
theorem forall₂_exposes {source : Sql.Source}
    (h : ((Generator.postgres folding context).source relation).result = .ok source) :
    List.Forall₂ (Exposes folding source) relation.tables source.factors := by
  have hfactors := factors_source _ h
  rw [hfactors, List.forall₂_map_right_iff, List.forall₂_same]
  intro t ht
  have hname := exposedName?_tableFactor (.postgres folding) context t
  obtain ⟨before, hbefore⟩ := Sql.exists_lexemes_of_exposedName? hname
  refine ⟨Sql.isInfix_source source _ ?_, _, before, hname, hbefore, lex_quote folding t.qualifier⟩
  rw [show source.tree.operands = source.factors from rfl, hfactors]
  exact List.mem_map_of_mem ht

/-- The items of `*` that are not `*` itself are the columns of all tables. -/
theorem projectColumns_of_expanded {items : List Sql.Item}
    (h : ((Generator.postgres folding context).selectItems (some relation) .wildcard).result = .ok items)
    (hexpanded : items ≠ [.star]) :
    (relation.fromColumns relation.isJoin).mapM (projectColumn (.postgres folding)) = .ok items := by
  have hreadable := (exists_wildcard_iff folding context relation).mp ⟨items, h⟩
  rw [← h]
  refine (wildcard_eq_listed folding context hreadable ?_).symm
  refine Classical.byContradiction fun hnone => hexpanded ?_
  -- Without a cast `*` stays as it is.
  have hstar : ((Generator.postgres folding context).selectItems (some relation) .wildcard).result =
      .ok [.star] :=
    wildcard_eq_star folding context fun c hc => Classical.byContradiction fun hne => hnone ⟨c, hc, hne⟩
  exact Except.ok.inj (h.symm.trans hstar)

/-- The columns of a join stand for the columns of its tables, behind the names that these are exposed under. -/
theorem forall₂_standsFor {tables : List Table} {items : List Sql.Item}
    (hnames : ∀ t ∈ tables, t.name ≠ "" ∧ t.aliasName ≠ some "")
    (h : (columnsOf true tables).mapM (projectColumn (.postgres folding)) = .ok items) :
    List.Forall₂ (StandsFor folding)
      (ownedColumns tables (tables.map (tableFactor (.postgres folding) context))) items := by
  -- Columns and their owners are two views of one list, in which each column stands with its table.
  let pairs := tables.flatMap fun t => t.metadata.columns.map fun c => (t, c)
  have hcolumns : columnsOf true tables =
      pairs.map fun (t, c) => { metadata := c, tableAlias := some t.qualifier } := by
    simp [columnsOf, pairs, List.map_flatMap, Function.comp_def]
  have howned : ownedColumns tables (tables.map (tableFactor (.postgres folding) context)) =
      pairs.map fun (t, c) => (tableFactor (.postgres folding) context t, c) := by
    rw [ownedColumns, ← List.map_prod_left_eq_zip]
    simp [pairs, List.map_flatMap, List.flatMap_map, Function.comp_def]
  have hqualified : ∀ pair ∈ pairs, pair.1.qualifier ≠ "" := by
    intro pair hpair
    obtain ⟨t, ht, hc⟩ := List.mem_flatMap.mp hpair
    obtain ⟨c, -, rfl⟩ := List.mem_map.mp hc
    exact qualifier_ne_empty (hnames t ht).1 (hnames t ht).2
  rw [hcolumns] at h
  have hitems := List.forall₂_map_left_iff.mp (forall₂_of_mapM h)
  rw [howned, List.forall₂_map_left_iff]
  refine ((List.forall₂_and_left _ _).mpr ⟨hqualified, hitems⟩).imp ?_
  rintro ⟨t, c⟩ item ⟨hne, hitem⟩
  obtain ⟨cast, hcast, hresult⟩ := Outcome.bind_eq_ok_iff.mp hitem
  rw [columnExpr_qualified _ hne] at hresult
  cases hresult
  exact ⟨_, cast, exposedName?_tableFactor _ context t, hcast, rfl, reference?_apply cast _⟩

end Statements

/-- **The columns of `*` over a join name tables that the FROM clause exposes.** Let no table of the join have an empty
name or alias, and let `*` be replaced by columns. The tables of the FROM clause are those of the join, in the same
order, each exposed under the alias that is written for it, or else under the last part of its name. The items are the
columns of all tables, from left to right, and each that is a reference is qualified with the name that exposes its
table. -/
theorem Adapter.expanded_columns_name_exposed_tables (a : Adapter) (context : GenerationContext)
    {relation : Node} (filter : Option Node) (keys : Option (List Node)) (having : Option Node)
    (ordering : Option (List SortItem)) (limit : Option Limit) {q : Sql.Query} (hjoin : relation.isJoin)
    (hnames : ∀ t ∈ relation.tables, t.name ≠ "" ∧ t.aliasName ≠ some "")
    (h : ((Generator.postgres a.folding context).statement .wildcard relation filter keys having ordering
      limit).result = .ok q) (hexpanded : q.items ≠ [.star]) :
    (a.compile context (.select .wildcard relation filter keys having ordering limit)).result =
      .ok (Sql.render q.lexemes) ∧
    List.Forall₂ (Exposes a.folding q.source) relation.tables q.source.factors ∧
    List.Forall₂ (StandsFor a.folding) (ownedColumns relation.tables q.source.factors) q.items := by
  have hcompile : (a.compile context (.select .wildcard relation filter keys having ordering limit)).result =
      .ok (Sql.render q.lexemes) := by
    rw [Adapter.compile, Generator.result_generate, Generator.lexemes, Traced.result_bind, h]
    rfl
  have hrelation : relation.isRelation := by
    cases relation with
    | join kind left right condition => rfl
    | _ => cases hjoin
  rw [Generator.result_statement _ hrelation] at h
  obtain ⟨items, hitems, h⟩ := Outcome.bind_eq_ok_iff.mp h
  obtain ⟨source, hsource, h⟩ := Outcome.bind_eq_ok_iff.mp h
  simp only [Outcome.bind_eq_ok_iff, Except.ok.injEq] at h
  obtain ⟨_, _, _, _, _, _, _, _, rfl⟩ := h
  have hlisted := projectColumns_of_expanded a.folding context hitems hexpanded
  rw [hjoin, ← columnsOf_tables] at hlisted
  refine ⟨hcompile, forall₂_exposes a.folding context hsource, ?_⟩
  rw [factors_source _ hsource]
  exact forall₂_standsFor a.folding context hnames hlisted

/-- An alias that repeats the name of its table is not written and still names its columns; an alias that differs from
the name in case only is written; a table without an alias on the right of a join in brackets is named without its
schema. -/
theorem Adapter.expanded_columns_of_three_tables :
    let column := fun name typeName : String => ({ name, notes :=
      "\x7b\"jdbcDataType\":1111,\"typeName\":\"" ++ typeName ++ "\"\x7d", type := .boolean } : ColumnMetadata)
    let table := fun (name : String) aliasName columns =>
      Node.table { name, aliasName, metadata := { name, columns } }
    let yes := Node.literal (.bool true)
    let right := Node.join .inner (table "B" (some "b") [column "ID" "serial4"])
      (table "C" none [column "ID" "int4"]) yes
    let relation := Node.join .leftOuter (table "A" (some "A") [column "ID" "json"]) right yes
    let a : Adapter := { properties := { entries := [] }, filter := ⟨.convertToUpper, false⟩ }
    let context : GenerationContext := { schema := some "S" }
    let sql := "SELECT CAST(\"a\".\"id\" AS VARCHAR), CAST(\"b\".\"id\" AS INTEGER), \"c\".\"id\" " ++
      "FROM \"s\".\"a\" LEFT OUTER JOIN (\"s\".\"b\" AS \"b\" INNER JOIN \"s\".\"c\" ON true) ON true"
    relation.isJoin ∧ (∀ t ∈ relation.tables, t.name ≠ "" ∧ t.aliasName ≠ some "") ∧
    ∃ q, ((Generator.postgres a.folding context).statement .wildcard relation none none none none none).result =
        .ok q ∧ q.items ≠ [.star] ∧
      (a.compile context (.select .wildcard relation none none none none none)).result = .ok sql ∧
      List.Forall₂ (Exposes a.folding q.source) relation.tables q.source.factors ∧
      List.Forall₂ (StandsFor a.folding) (ownedColumns relation.tables q.source.factors) q.items := by
  intro column table yes right relation a context sql
  have hnames : ∀ t ∈ relation.tables, t.name ≠ "" ∧ t.aliasName ≠ some "" := by decide +kernel
  have hwritten : ((Generator.postgres a.folding context).statement .wildcard relation none none none none
      none).result.toOption.map (fun q => (q.items.length, Sql.render q.lexemes)) = some (3, sql) := by
    decide +kernel
  obtain ⟨q, hq, hpair⟩ := Option.map_eq_some_iff.mp hwritten
  obtain ⟨hlength, hsql⟩ := Prod.mk.inj hpair
  have hq := Outcome.eq_ok_of_toOption hq
  have hexpanded : q.items ≠ [.star] := by
    intro h
    rw [h] at hlength
    cases hlength
  obtain ⟨hcompile, hexposes, hcolumns⟩ :=
    expanded_columns_name_exposed_tables a context none none none none none rfl hnames hq hexpanded
  rw [hsql] at hcompile
  exact ⟨rfl, hnames, q, hq, hexpanded, hcompile, hexposes, hcolumns⟩

end Pushdown
