import Pushdown.Postgres.Adapter
import Pushdown.Proofs.Postgres.Scalar
import Pushdown.Proofs.Postgres.Wildcard

/-!
# `Proofs.Generation.WellFormed` — which queries PostgreSQL's generator accepts

The query tree lets every node stand everywhere; generation refuses what cannot be written. Here the trees that
can be written are described without the generator, by recursion over the parts that are written, and the
generator is shown to accept exactly these. The ordering of a string aggregation is not written, so nothing is
asked of it.

## Contents

* `Node.expressible` — the nodes that may stand as an expression.
* `Node.joinsTables` — the nodes that may stand as a FROM clause.
* `Node.wellFormed` — any node, a clause on its own included.
* `exists_expr_iff`, `exists_source_iff`, `exists_statement_iff` — the generator accepts exactly these.
* `Adapter.compile_isOk_iff_wellFormed` — the same for the text that a caller gets, with the form of refusals.
-/

namespace Pushdown

/-! ## Well-formed queries -/

/-- The number of arguments of a function that takes a fixed number of them. -/
def ScalarFunction.arity? : ScalarFunction → Option Nat
  | .add | .sub | .mult | .floatDiv => some 2
  | .addDays | .addHours | .addMinutes | .addSeconds | .addWeeks | .addMonths | .addYears => some 2
  | .neg | .posixTime => some 1
  | .second | .minute | .day | .week | .month | .year => some 1
  | _ => none

/-- A function may be called with this number of arguments. -/
def ScalarFunction.takes (f : ScalarFunction) (count : Nat) : Bool :=
  f.arity?.all fun expected => count = expected

/-- A LIKE may have this escape. -/
def isEscape : Option Node → Bool
  | none => true
  | some (.literal (.string _)) => true
  | some _ => false

mutual

/-- The node may stand as an expression. -/
def Node.expressible : Node → Bool
  | .column _ | .literal _ => true
  | .predicate p => p.expressible
  | .scalar function arguments => function.takes arguments.length && allExpressible arguments
  | .extract _ argument => argument.expressible
  | .case basis branches otherwise =>
    !branches.isEmpty && branchesExpressible branches && optionExpressible basis &&
      optionExpressible otherwise
  | .cast argument _ => argument.expressible
  | .aggregate _ arguments _ => allExpressible arguments
  | .groupConcat argument _ _ _ => argument.expressible
  | .select _ _ _ _ _ _ _ | .selectList _ | .table _ | .join _ _ _ _ | .orderBy _ | .groupBy _
  | .limit _ => false

/-- The parts of the condition may stand where they do. -/
def Predicate.expressible : Predicate → Bool
  | .and operands | .or operands => !operands.isEmpty && allExpressible operands
  | .not operand | .isNull operand | .isNotNull operand => operand.expressible
  | .equal left right | .notEqual left right | .less left right | .lessEqual left right =>
    left.expressible && right.expressible
  | .like value pattern escape => value.expressible && pattern.expressible && isEscape escape
  | .regexp value pattern => value.expressible && pattern.expressible
  | .between value low high => value.expressible && low.expressible && high.expressible
  | .inList value candidates =>
    !candidates.isEmpty && value.expressible && allExpressible candidates

/-- Every node may stand as an expression. -/
def allExpressible : List Node → Bool
  | [] => true
  | n :: ns => n.expressible && allExpressible ns

/-- The node, if there is one, may stand as an expression. -/
def optionExpressible : Option Node → Bool
  | none => true
  | some n => n.expressible

/-- Every part of the branches may stand as an expression. -/
def branchesExpressible : List Branch → Bool
  | [] => true
  | .mk condition result :: rest =>
    condition.expressible && result.expressible && branchesExpressible rest

end

/-- Every key of the ordering may stand as an expression. -/
def keysExpressible : List SortItem → Bool
  | [] => true
  | .mk key _ _ :: rest => key.expressible && keysExpressible rest

/-- An ordering, if there is one, has keys, and all may stand as expressions. -/
def isOrdering : Option (List SortItem) → Bool
  | none => true
  | some items => !items.isEmpty && keysExpressible items

/-- A grouping, if there is one, has keys, and all may stand as expressions. -/
def isGrouping : Option (List Node) → Bool
  | none => true
  | some keys => !keys.isEmpty && allExpressible keys

namespace Node

/-- The node is a table, or a join of tables on conditions that may stand as expressions. -/
def joinsTables : Node → Bool
  | .table _ => true
  | .join _ left right condition => left.joinsTables && right.joinsTables && condition.expressible
  | _ => false

theorem joinsTables_eq_false {n : Node} (h : n.isRelation = false) : n.joinsTables = false := by
  cases n with
  | table | join => cases h
  | _ => rfl

/-- The node may stand directly in a select list: the notes of a column must be readable there. -/
def projectable : Node → Bool
  | .column c => c.metadata.readable
  | node => node.expressible

end Node

/-- The select list can be written over a FROM clause, if there is one. -/
def SelectList.wellFormed (source : Option Node) : SelectList → Bool
  | .anyValue => true
  | .wildcard =>
    match source with
    | none => true
    | some node => node.tables.all fun t => t.metadata.columns.all (·.readable)
  | .expressions items => !items.isEmpty && items.all (·.projectable)

/-- The node can be written; a clause may stand on its own. -/
def Node.wellFormed : Node → Bool
  | .select list source filter grouping having ordering _ =>
    source.joinsTables && list.wellFormed (some source) && optionExpressible filter &&
      isGrouping grouping && optionExpressible having && isOrdering ordering
  | .selectList list => list.wellFormed none
  | .table _ => true
  | .join kind left right condition => joinsTables (.join kind left right condition)
  | .orderBy items => isOrdering (some items)
  | .groupBy keys => isGrouping (some keys)
  | .limit _ => true
  | node => node.expressible

/-! ## The generator on expressions -/

section Expressions

variable (folding : CaseFolding) (context : GenerationContext)

theorem takes_iff (f : ScalarFunction) (count : Nat) :
    f.takes count ↔ ∀ expected ∈ f.form.arity?, count = expected := by
  have h : f.arity? = f.form.arity? := by cases f <;> rfl
  rw [ScalarFunction.takes, h]
  cases f.form.arity? <;> simp

theorem exists_scalarExpr_iff (f : ScalarFunction) (arguments : List Sql.Expr) :
    (∃ e, (scalarExpr (.postgres folding) f arguments).result = .ok e) ↔ f.takes arguments.length := by
  rw [result_scalarExpr, ScalarForm.exists_write_eq_ok_iff, takes_iff]

theorem exists_connective_iff (operator : Sql.Operator) (operands : List Sql.Expr) :
    (∃ e, connective operator operands = .ok e) ↔ operands ≠ [] := by
  cases operands <;> simp [connective]

/-- Only a text can be the escape of a LIKE. -/
theorem exists_escapeText_iff (escape : Option Node) :
    (∃ e, escapeText escape = .ok e) ↔ isEscape escape := by
  cases escape with
  | none => simp [escapeText, isEscape]
  | some n =>
    cases n with
    | literal l => cases l <;> simp [escapeText, isEscape]
    | _ => simp [escapeText, isEscape]

/-- As many expressions are written as there are nodes. -/
theorem length_exprs (g : Generator) {ns : List Node} {es : List Sql.Expr}
    (h : (g.exprs ns).result = .ok es) : es.length = ns.length := by
  induction ns generalizing es with
  | nil =>
    simp only [Generator.exprs, Traced.result_pure_eq_ok_iff] at h
    subst h
    rfl
  | cons n ns ih =>
    simp only [Generator.exprs, Traced.result_bind_eq_ok_iff, Traced.result_pure_eq_ok_iff] at h
    obtain ⟨e, _, rest, hrest, rfl⟩ := h
    simp [ih hrest]

/-- A connective succeeds if there are operands and all can be written. -/
theorem exists_joined_iff {g : Generator} (operands : List Node)
    (h : (∃ es, (g.exprs operands).result = .ok es) ↔ allExpressible operands)
    (operator : Sql.Operator) :
    (∃ e, (g.exprs operands >>= fun es => Traced.ofExcept (connective operator es)).result = .ok e) ↔
      !operands.isEmpty && allExpressible operands := by
  simp only [Traced.result_bind, Traced.result_ofExcept, Outcome.exists_bind_eq_ok_iff,
    exists_connective_iff, Bool.and_eq_true, ← h]
  constructor
  · rintro ⟨es, hes, hne⟩
    have hlength := length_exprs g hes
    exact ⟨by cases operands <;> simp_all, es, hes⟩
  · rintro ⟨hne, es, hes⟩
    have hlength := length_exprs g hes
    exact ⟨es, hes, by cases operands <;> cases es <;> simp_all⟩

mutual

/-- **The generator accepts exactly the nodes that may stand as an expression.** -/
theorem exists_expr_iff : ∀ n : Node,
    (∃ e, ((Generator.postgres folding context).expr n).result = .ok e) ↔ n.expressible
  | .column _ => by simp [Generator.expr, Node.expressible]
  | .literal _ => by simp [Generator.expr, Node.expressible]
  | .predicate p => by
    rw [Generator.expr, Node.expressible]
    exact exists_predicate_iff p
  | .scalar f arguments => by
    simp only [Generator.expr, Traced.result_bind, Outcome.exists_bind_eq_ok_iff, Node.expressible,
      Bool.and_eq_true]
    constructor
    · rintro ⟨es, hes, hcall⟩
      rw [← length_exprs _ hes]
      exact ⟨(exists_scalarExpr_iff folding f es).mp hcall, (exists_exprs_iff arguments).mp ⟨es, hes⟩⟩
    · rintro ⟨htakes, hargs⟩
      obtain ⟨es, hes⟩ := (exists_exprs_iff arguments).mpr hargs
      rw [← length_exprs _ hes] at htakes
      exact ⟨es, hes, (exists_scalarExpr_iff folding f es).mpr htakes⟩
  | .extract unit argument => by
    simp [Generator.expr, Node.expressible, Outcome.exists_bind_eq_ok_iff, exists_expr_iff argument]
  | .case basis branches otherwise => by
    have hbranches := exists_branches_iff branches
    have hbasis := exists_optionalExpr_iff basis
    have hotherwise := exists_optionalExpr_iff otherwise
    cases branches with
    | nil => simp [Generator.expr, Node.expressible]
    | cons branch rest =>
      simp [Generator.expr, Node.expressible, Outcome.exists_bind_eq_ok_iff, hbranches, hbasis,
        hotherwise, and_assoc]
  | .cast argument type => by
    simp [Generator.expr, Node.expressible, Outcome.exists_bind_eq_ok_iff, exists_expr_iff argument]
  | .aggregate f arguments distinct => by
    simp [Generator.expr, Node.expressible, Outcome.exists_bind_eq_ok_iff, exists_exprs_iff arguments]
  | .groupConcat argument distinct ordering separator => by
    simp [Generator.result_groupConcat, Node.expressible, Outcome.exists_bind_eq_ok_iff, exists_expr_iff argument]
  | .select _ _ _ _ _ _ _ => by simp [Generator.expr, Node.expressible]
  | .selectList _ => by simp [Generator.expr, Node.expressible]
  | .table _ => by simp [Generator.expr, Node.expressible]
  | .join _ _ _ _ => by simp [Generator.expr, Node.expressible]
  | .orderBy _ => by simp [Generator.expr, Node.expressible]
  | .groupBy _ => by simp [Generator.expr, Node.expressible]
  | .limit _ => by simp [Generator.expr, Node.expressible]

/-- **A condition is written if and only if it is expressible.** One case for each kind of condition: it is refused if
one of its operands is, if AND and OR have no operands or IN no candidates, and if the escape of a LIKE is no text. -/
theorem exists_predicate_iff : ∀ p : Predicate,
    (∃ e, ((Generator.postgres folding context).predicate p).result = .ok e) ↔ p.expressible
  | .and operands => by
    rw [Generator.predicate, Predicate.expressible]
    exact exists_joined_iff operands (exists_exprs_iff operands) .and
  | .or operands => by
    rw [Generator.predicate, Predicate.expressible]
    exact exists_joined_iff operands (exists_exprs_iff operands) .or
  | .not operand => by
    simp [Generator.predicate, Predicate.expressible, Outcome.exists_bind_eq_ok_iff,
      exists_expr_iff operand]
  | .equal left right => by
    simp [Generator.predicate, Predicate.expressible, Outcome.exists_bind_eq_ok_iff,
      exists_expr_iff left, exists_expr_iff right]
  | .notEqual left right => by
    simp [Generator.predicate, Predicate.expressible, Outcome.exists_bind_eq_ok_iff,
      exists_expr_iff left, exists_expr_iff right]
  | .less left right => by
    simp [Generator.predicate, Predicate.expressible, Outcome.exists_bind_eq_ok_iff,
      exists_expr_iff left, exists_expr_iff right]
  | .lessEqual left right => by
    simp [Generator.predicate, Predicate.expressible, Outcome.exists_bind_eq_ok_iff,
      exists_expr_iff left, exists_expr_iff right]
  | .like value pattern escape => by
    simp [Generator.predicate, Predicate.expressible, Outcome.exists_bind_eq_ok_iff,
      exists_expr_iff value, exists_expr_iff pattern, exists_escapeText_iff, and_assoc]
  | .regexp value pattern => by
    simp [Generator.predicate, Predicate.expressible, Outcome.exists_bind_eq_ok_iff,
      exists_expr_iff value, exists_expr_iff pattern]
  | .between value low high => by
    simp [Generator.predicate, Predicate.expressible, Outcome.exists_bind_eq_ok_iff,
      exists_expr_iff value, exists_expr_iff low, exists_expr_iff high, and_assoc]
  | .inList value candidates => by
    have hcandidates := exists_exprs_iff candidates
    cases candidates with
    | nil => simp [Generator.predicate, Predicate.expressible]
    | cons first rest =>
      simp [Generator.predicate, Predicate.expressible, Outcome.exists_bind_eq_ok_iff,
        exists_expr_iff value, hcandidates]
  | .isNull operand => by
    simp [Generator.predicate, Predicate.expressible, Outcome.exists_bind_eq_ok_iff,
      exists_expr_iff operand]
  | .isNotNull operand => by
    simp [Generator.predicate, Predicate.expressible, Outcome.exists_bind_eq_ok_iff,
      exists_expr_iff operand]

theorem exists_exprs_iff : ∀ ns : List Node,
    (∃ es, ((Generator.postgres folding context).exprs ns).result = .ok es) ↔ allExpressible ns
  | [] => by simp [Generator.exprs, allExpressible]
  | n :: ns => by
    simp [Generator.exprs, allExpressible, Outcome.exists_bind_eq_ok_iff, exists_expr_iff n,
      exists_exprs_iff ns]

theorem exists_optionalExpr_iff : ∀ n : Option Node,
    (∃ e, ((Generator.postgres folding context).optionalExpr n).result = .ok e) ↔
      optionExpressible n
  | none => by simp [Generator.optionalExpr, optionExpressible]
  | some n => by
    simp [Generator.optionalExpr, optionExpressible, Outcome.exists_bind_eq_ok_iff,
      exists_expr_iff n]

theorem exists_branches_iff : ∀ bs : List Branch,
    (∃ ws, ((Generator.postgres folding context).branches bs).result = .ok ws) ↔
      branchesExpressible bs
  | [] => by simp [Generator.branches, branchesExpressible]
  | .mk condition result :: rest => by
    simp [Generator.branches, branchesExpressible, Outcome.exists_bind_eq_ok_iff,
      exists_expr_iff condition, exists_expr_iff result, exists_branches_iff rest, and_assoc]

end

/-! ## The generator on clauses -/

/-- Sort keys are written if and only if all of them are expressions. -/
theorem exists_sortKeysFrom_iff (items : List SortItem) :
    (∃ keys, ((Generator.postgres folding context).sortKeysFrom items).result = .ok keys) ↔
      keysExpressible items := by
  induction items with
  | nil => simp [Generator.sortKeysFrom, keysExpressible]
  | cons item items ih =>
    cases item with
    | mk key ascending nullsLast =>
      simp [Generator.sortKeysFrom, keysExpressible, Outcome.exists_bind_eq_ok_iff,
        exists_expr_iff folding context key, ih]

/-- An ordering is written if and only if it has keys and all of them are expressions. -/
theorem exists_optionalSortKeys_iff (ordering : Option (List SortItem)) :
    (∃ keys, ((Generator.postgres folding context).optionalSortKeys ordering).result = .ok keys) ↔
      isOrdering ordering := by
  cases ordering with
  | none => simp [Generator.optionalSortKeys, isOrdering]
  | some items =>
    have hkeys := exists_sortKeysFrom_iff folding context items
    cases items with
    | nil => simp [Generator.optionalSortKeys, isOrdering]
    | cons item items => simpa [Generator.optionalSortKeys, isOrdering] using hkeys

theorem exists_groupKeys_iff (keys : List Node) :
    (∃ es, ((Generator.postgres folding context).groupKeys keys).result = .ok es) ↔
      isGrouping (some keys) := by
  have hkeys := exists_exprs_iff folding context keys
  cases keys with
  | nil => simp [Generator.groupKeys, isGrouping]
  | cons key keys => simpa [Generator.groupKeys, isGrouping] using hkeys

theorem exists_grouping_iff (keys : Option (List Node)) :
    (∃ es, (Generator.postgres folding context).grouping keys = .ok es) ↔ isGrouping keys := by
  cases keys with
  | none => simp [Generator.grouping, isGrouping]
  | some keys => exact exists_groupKeys_iff folding context keys

/-- A FROM clause is written if and only if it is a table or joins tables, on conditions that can be written. -/
theorem exists_source_iff (n : Node) :
    (∃ s, ((Generator.postgres folding context).source n).result = .ok s) ↔ n.joinsTables := by
  induction n using Node.source_induction with
  | table t => simp [Generator.source, Node.joinsTables]
  | join kind left right condition hleft hright =>
    -- A table on the right is written as it is, and only a join there is read as a FROM clause of its own.
    cases right <;>
      simp_all [Generator.source, Node.joinsTables, Outcome.exists_bind_eq_ok_iff,
        exists_expr_iff folding context condition, and_assoc]
  | other n hn => simp [Generator.source_eq_refuse _ hn, Node.joinsTables_eq_false hn]

/-- A column directly in a select list needs notes that can be read; any other item needs to be an expression. -/
theorem exists_projected_iff (n : Node) :
    (∃ item, ((Generator.postgres folding context).projected n).result = .ok item) ↔
      n.projectable := by
  have hexpr := exists_expr_iff folding context n
  cases n with
  | column c =>
    have hitem : ((Generator.postgres folding context).projected (.column c)).result =
        c.metadata.projectionCast.bind fun cast =>
          .ok (cast.apply (columnExpr (.postgres folding) c)) := rfl
    simp [hitem, Outcome.exists_bind_eq_ok_iff, Node.projectable, readable_iff]
  | _ => simpa [Generator.projected, Node.projectable, Outcome.exists_bind_eq_ok_iff] using hexpr

theorem exists_projectedItems_iff (ns : List Node) :
    (∃ items, ((Generator.postgres folding context).projectedItems ns).result = .ok items) ↔
      ns.all (·.projectable) := by
  induction ns with
  | nil => simp [Generator.projectedItems]
  | cons n ns ih =>
    simp [Generator.projectedItems, Outcome.exists_bind_eq_ok_iff, exists_projected_iff, ih]

/-- The columns that `*` stands for are those of all its tables. -/
theorem readable_tables_iff (qualified : Bool) (source : Node) :
    (∀ c ∈ source.fromColumns qualified, c.metadata.readable) ↔
      source.tables.all fun t => t.metadata.columns.all (·.readable) := by
  have hcolumns := metadata_fromColumns qualified source
  have hall : (∀ c ∈ source.fromColumns qualified, c.metadata.readable) ↔
      ∀ c ∈ (source.fromColumns qualified).map (·.metadata), c.readable := by simp
  rw [hall, hcolumns]
  simp only [List.mem_flatMap, List.all_eq_true]
  exact ⟨fun h t ht c hc => h c ⟨t, ht, hc⟩, fun h c ⟨t, ht, hc⟩ => h t ht c hc⟩

/-- Items are written if and only if there are some and all of them can be, a `*` over tables if their columns have
notes that can be read, and any value always. -/
theorem exists_selectItems_iff (source : Option Node) (list : SelectList) :
    (∃ items, ((Generator.postgres folding context).selectItems source list).result = .ok items) ↔
      list.wellFormed source := by
  cases list with
  | anyValue => simp [Generator.selectItems, SelectList.wellFormed]
  | wildcard =>
    cases source with
    | none =>
      have hstar : ((Generator.postgres folding context).selectItems none .wildcard).result =
          .ok [.star] := rfl
      simp [hstar, SelectList.wellFormed]
    | some source =>
      rw [exists_wildcard_iff, readable_tables_iff]
      rfl
  | expressions ns =>
    have hitems := exists_projectedItems_iff folding context ns
    cases ns with
    | nil => simp [Generator.selectItems, SelectList.wellFormed]
    | cons n ns => simpa [Generator.selectItems, SelectList.wellFormed] using hitems

/-- **The generator accepts exactly the well-formed statements.** -/
theorem exists_statement_iff (list : SelectList) (relation : Node) (filter : Option Node)
    (keys : Option (List Node)) (having : Option Node) (ordering : Option (List SortItem))
    (limit : Option Limit) :
    (∃ q, ((Generator.postgres folding context).statement list relation filter keys having ordering
      limit).result = .ok q) ↔
      (Node.select list relation filter keys having ordering limit).wellFormed := by
  have hsource := exists_source_iff folding context relation
  cases hrelation : relation.isRelation with
  | false =>
    simp [Generator.statement, hrelation, Node.wellFormed, Node.joinsTables_eq_false hrelation]
  | true =>
    simp [Generator.result_statement _ hrelation, Outcome.exists_bind_eq_ok_iff, Node.wellFormed,
      hsource, exists_selectItems_iff, exists_optionalExpr_iff, exists_grouping_iff,
      exists_optionalSortKeys_iff, and_assoc, and_left_comm]

/-- **The generator accepts exactly the well-formed nodes.** -/
theorem exists_lexemes_iff (n : Node) :
    (∃ ls, ((Generator.postgres folding context).lexemes n).result = .ok ls) ↔ n.wellFormed := by
  have hexpr := exists_expr_iff folding context n
  have hsource := exists_source_iff folding context n
  cases n with
  | select list relation filter keys having ordering limit =>
    simp [Generator.lexemes, Outcome.exists_bind_eq_ok_iff, exists_statement_iff]
  | selectList list =>
    simp [Generator.lexemes, Outcome.exists_bind_eq_ok_iff, exists_selectItems_iff, Node.wellFormed]
  | table t => simp [Generator.lexemes, Generator.source, Node.wellFormed]
  | join kind left right condition =>
    simp [Generator.lexemes, Outcome.exists_bind_eq_ok_iff, hsource, Node.wellFormed]
  | orderBy items =>
    simp [Generator.lexemes, Outcome.exists_bind_eq_ok_iff, exists_optionalSortKeys_iff,
      Node.wellFormed]
  | groupBy keys =>
    simp [Generator.lexemes, Outcome.exists_bind_eq_ok_iff, exists_groupKeys_iff, Node.wellFormed]
  | limit l => simp [Generator.lexemes, Node.wellFormed]
  | _ => simpa [Generator.lexemes, Outcome.exists_bind_eq_ok_iff, Node.wellFormed] using hexpr

end Expressions

/-! ## Refusals -/

/-- Whatever the cause, a refusal has one of three codes and tells the dialect. -/
theorem toFailure_of_generation (dialect : String) (e : GenerationError) :
    (e.toFailure dialect).code.number ∈ [2001, 2002, 2003] ∧
      (e.toFailure dialect).category = .generation ∧
      ∃ node reason, (e.toFailure dialect).context = some (.generation dialect node reason) := by
  cases e <;> simp [GenerationError.toFailure, Failure.category, Code.category, Code.number]

/-- A text is compiled if there are lexemes to write. -/
theorem Adapter.exists_compile_iff (a : Adapter) (context : GenerationContext) (n : Node) :
    (∃ sql, (a.compile context n).result = .ok sql) ↔ n.wellFormed := by
  rw [← exists_lexemes_iff a.folding context n, Adapter.compile, Generator.result_generate]
  cases ((Generator.postgres a.folding context).lexemes n).result <;> simp

/-- A refusal is that of the generator, for this dialect. -/
theorem Adapter.exists_generationError {a : Adapter} {context : GenerationContext} {n : Node} {f : Failure}
    (h : (a.compile context n).result = .error f) :
    ∃ e : GenerationError, f = e.toFailure "POSTGRESQL" := by
  rw [Adapter.compile, Generator.result_generate] at h
  cases hlexemes : ((Generator.postgres a.folding context).lexemes n).result with
  | ok ls =>
    rw [hlexemes] at h
    cases h
  | error e =>
    rw [hlexemes] at h
    cases h
    exact ⟨e, rfl⟩

/-- **A query is compiled if and only if it is well formed.** What is refused is refused as a fault of generation
for this dialect. -/
theorem Adapter.compile_isOk_iff_wellFormed (a : Adapter) (context : GenerationContext) (n : Node) :
    ((∃ sql, (a.compile context n).result = .ok sql) ↔ n.wellFormed) ∧
    ∀ f, (a.compile context n).result = .error f →
      f.code.number ∈ [2001, 2002, 2003] ∧ f.category = .generation ∧
        ∃ node reason, f.context = some (.generation "POSTGRESQL" node reason) := by
  refine ⟨a.exists_compile_iff context n, fun f hf => ?_⟩
  obtain ⟨e, rfl⟩ := exists_generationError hf
  exact toFailure_of_generation "POSTGRESQL" e

end Pushdown
