import Pushdown.Proofs.Outcome

/-!
# `Proofs.Generation.Log` — what one generation reports

The events of a generation do not show in its text, so a node that is visited twice or not at all would go unnoticed
there. Here the events are followed through the recursion: every part of it reports nothing but what it is meant
to report, and if it succeeds, the rules it reports are those of the calls in the tree, each once and in the order in
which the parts of a query are written. Around these events stand one that announces the generation and one that tells
its outcome.

## Contents

* `Node.ruleCalls` — the calls of a tree that a rule writes, in the order of the events they leave.
* `Reports` — a computation reports these calls, and otherwise nothing but steps on the way.
* `reports_expr`, `reports_source`, `reports_statement`, `reports_lexemes` — the parts of a query and the whole.
* `Generator.log_brackets_outcome` — the whole log of a generation.
-/

namespace Pushdown

/-! ## The calls of a tree -/

/-- What an ordering adds: all of it, or nothing if the ordering is not written. -/
def Concatenation.written {α : Type} : Concatenation → List α → List α
  | .groupConcat, ordering => ordering
  | .stringAgg, _ => []

section Calls

variable (rules : FunctionRules) (way : Concatenation)

mutual

/-- The calls of functions that have a rule, arguments before their call. The ordering of a string aggregation counts
only if the aggregation is written with it. -/
def Node.ruleCalls : Node → List ScalarFunction
  | .select list source filter keys having ordering _ =>
    list.ruleCalls ++ source.ruleCalls ++ ruleCallsOption filter ++ ruleCallsKeys keys ++
      ruleCallsOption having ++ ruleCallsOrdering ordering
  | .selectList list => list.ruleCalls
  | .join _ left right condition => left.ruleCalls ++ right.ruleCalls ++ condition.ruleCalls
  | .predicate p => p.ruleCalls
  | .scalar function arguments =>
    ruleCallsAll arguments ++ if rules.hasRule function then [function] else []
  | .extract _ argument => argument.ruleCalls
  | .case basis branches otherwise =>
    ruleCallsBranches branches ++ ruleCallsOption basis ++ ruleCallsOption otherwise
  | .cast argument _ => argument.ruleCalls
  | .aggregate _ arguments _ => ruleCallsAll arguments
  | .groupConcat argument _ ordering _ => way.written (ruleCallsOrdering ordering) ++ argument.ruleCalls
  | .orderBy items => ruleCallsItems items
  | .groupBy keys => ruleCallsAll keys
  | .table _ | .column _ | .literal _ | .limit _ => []

/-- Neither `*` nor any value stands for a call. -/
def SelectList.ruleCalls : SelectList → List ScalarFunction
  | .anyValue | .wildcard => []
  | .expressions items => ruleCallsAll items

/-- The escape of a LIKE is a text, and no call in it is written. -/
def Predicate.ruleCalls : Predicate → List ScalarFunction
  | .and operands | .or operands => ruleCallsAll operands
  | .not operand | .isNull operand | .isNotNull operand => operand.ruleCalls
  | .equal left right | .notEqual left right | .less left right | .lessEqual left right =>
    left.ruleCalls ++ right.ruleCalls
  | .like value pattern _ => value.ruleCalls ++ pattern.ruleCalls
  | .regexp value pattern => value.ruleCalls ++ pattern.ruleCalls
  | .between value low high => value.ruleCalls ++ low.ruleCalls ++ high.ruleCalls
  | .inList value candidates => value.ruleCalls ++ ruleCallsAll candidates

def ruleCallsAll : List Node → List ScalarFunction
  | [] => []
  | n :: ns => n.ruleCalls ++ ruleCallsAll ns

def ruleCallsOption : Option Node → List ScalarFunction
  | none => []
  | some n => n.ruleCalls

def ruleCallsKeys : Option (List Node) → List ScalarFunction
  | none => []
  | some keys => ruleCallsAll keys

def ruleCallsBranches : List Branch → List ScalarFunction
  | [] => []
  | .mk condition result :: rest => condition.ruleCalls ++ result.ruleCalls ++ ruleCallsBranches rest

def ruleCallsItems : List SortItem → List ScalarFunction
  | [] => []
  | .mk key _ _ :: rest => key.ruleCalls ++ ruleCallsItems rest

def ruleCallsOrdering : Option (List SortItem) → List ScalarFunction
  | none => []
  | some items => ruleCallsItems items

end

end Calls

/-! ## Computations and what they report -/

/-- The event tells of a step of a generation, not of its beginning or its end. -/
def Event.isStep : Event → Bool
  | .ruleApplied _ | .wildcardExpanded _ | .orderingDropped => true
  | _ => false

/-- The events that tell of a rule. -/
def ruleEvents (log : List Event) : List Event := log.filter (·.message == "Applied dialect function rule")

/-- The event that a rule leaves. -/
def ruleEvent (function : ScalarFunction) : Event := .ruleApplied (Enumeration.name function)

/-- The computation reports nothing but steps of a generation; if it succeeds, the rules that it reports are those
of these calls. -/
structure Reports {ε α : Type} (x : Traced ε α) (calls : List ScalarFunction) : Prop where
  steps : ∀ e ∈ x.events, e.isStep
  rules : ∀ a, x.result = .ok a → ruleEvents x.events = calls.map ruleEvent

section Reports

variable {ε α β : Type} {x : Traced ε α} {f : α → Traced ε β} {calls more : List ScalarFunction}

theorem ruleEvents_append (log log' : List Event) : ruleEvents (log ++ log') = ruleEvents log ++ ruleEvents log' :=
  List.filter_append log log'

theorem reports_pure (a : α) : Reports (pure a : Traced ε α) [] := ⟨nofun, fun _ _ => rfl⟩

/-- What is refused need not report the calls behind it. -/
theorem reports_refuse (e : ε) : Reports (Traced.refuse e : Traced ε α) calls := ⟨nofun, nofun⟩

theorem reports_ofExcept (r : Except ε α) : Reports (Traced.ofExcept r) [] := ⟨nofun, fun _ _ => rfl⟩

/-- An event on the way that tells of no rule. -/
theorem reports_emit {e : Event} (hstep : e.isStep) (hrule : ruleEvents [e] = []) :
    Reports (Traced.emit e : Traced ε Unit) [] := by
  refine ⟨?_, fun _ _ => hrule⟩
  intro e' he'
  rw [List.mem_singleton.mp he']
  exact hstep

theorem reports_emit_rule (function : ScalarFunction) :
    Reports (Traced.emit (ruleEvent function) : Traced ε Unit) [function] := by
  refine ⟨?_, fun _ _ => rfl⟩
  intro e he
  rw [List.mem_singleton.mp he]
  rfl

/-- A sequence reports what its parts report, one behind the other. -/
theorem Reports.bind (hx : Reports x calls) (hf : ∀ a, Reports (f a) more) : Reports (x >>= f) (calls ++ more) := by
  constructor
  · intro e he
    cases hresult : x.result with
    | ok a =>
      rw [Traced.events_bind_of_ok hresult, List.mem_append] at he
      rcases he with he | he
      · exact hx.steps e he
      · exact (hf a).steps e he
    | error refusal =>
      -- nothing runs behind a refusal
      rw [Traced.events_bind_of_error hresult] at he
      exact hx.steps e he
  · intro b hb
    rw [Traced.result_bind_eq_ok_iff] at hb
    obtain ⟨a, ha, hb⟩ := hb
    rw [Traced.events_bind_of_ok ha, ruleEvents_append, hx.rules a ha, (hf a).rules b hb, List.map_append]

theorem Reports.andThen (h : Reports x calls) (hf : ∀ a, Reports (f a) []) : Reports (x >>= f) calls := by
  rw [← List.append_nil calls]
  exact h.bind hf

/-- What is done to the result afterwards reports nothing. -/
theorem Reports.map {g : α → β} (h : Reports x calls) : Reports (x >>= fun a => pure (g a)) calls :=
  h.andThen fun a => reports_pure (g a)

theorem Reports.finish {g : α → Except ε β} (h : Reports x calls) :
    Reports (x >>= fun a => Traced.ofExcept (g a)) calls :=
  h.andThen fun a => reports_ofExcept (g a)

end Reports

/-! ## Expressions -/

/-- A call reports its rule, if its function has one. -/
theorem reports_scalarExpr (d : Dialect) (function : ScalarFunction) (arguments : List Sql.Expr) :
    Reports (scalarExpr d function arguments) (if d.rules.hasRule function then [function] else []) := by
  unfold scalarExpr FunctionRules.call? FunctionRules.hasRule
  cases d.rules.rule? function with
  | none => exact reports_ofExcept (plainCall d function arguments)
  | some rule =>
    dsimp only
    cases rule.apply arguments with
    | error e => exact reports_refuse e
    | ok e =>
      show Reports (Traced.emit (ruleEvent function) >>= fun _ => pure e) [function]
      exact (reports_emit_rule function).map

section Generator

variable (g : Generator)

mutual

/-- **An expression reports the calls of its tree.** -/
theorem reports_expr : ∀ n : Node, Reports (g.expr n) (n.ruleCalls g.dialect.rules g.projection.concatenation)
  | .column c => reports_pure _
  | .literal l => reports_pure _
  | .predicate p => by
    rw [Generator.expr, Node.ruleCalls]
    exact reports_predicate p
  | .scalar function arguments => by
    rw [Generator.expr, Node.ruleCalls]
    exact (reports_exprs arguments).bind fun es => reports_scalarExpr g.dialect function es
  | .extract unit argument => by
    rw [Generator.expr, Node.ruleCalls]
    exact (reports_expr argument).map
  | .case basis branches otherwise => by
    rw [Generator.expr, Node.ruleCalls, List.append_assoc]
    split
    · exact reports_refuse _
    · exact (reports_branches branches).bind fun _ => (reports_optionalExpr basis).bind fun _ =>
        (reports_optionalExpr otherwise).map
  | .cast argument type => by
    rw [Generator.expr, Node.ruleCalls]
    exact (reports_expr argument).map
  | .aggregate function arguments distinct => by
    rw [Generator.expr, Node.ruleCalls]
    exact (reports_exprs arguments).map
  | .groupConcat argument distinct ordering separator => by
    have hordering := reports_optionalSortKeys ordering
    have hargument := reports_expr argument
    rw [Generator.expr, Node.ruleCalls]
    cases hway : g.projection.concatenation with
    | groupConcat =>
      rw [hway] at hordering hargument
      exact hordering.bind fun _ => hargument.map
    | stringAgg =>
      -- the ordering is dropped unread: its calls leave no events, and that there was one is a step
      rw [hway] at hargument
      dsimp only
      split
      · exact (reports_emit rfl rfl).bind fun _ => hargument.map
      · exact hargument.map
  | .select _ _ _ _ _ _ _ => reports_refuse _
  | .selectList _ => reports_refuse _
  | .table _ => reports_refuse _
  | .join _ _ _ _ => reports_refuse _
  | .orderBy _ => reports_refuse _
  | .groupBy _ => reports_refuse _
  | .limit _ => reports_refuse _

theorem reports_exprs : ∀ ns : List Node,
    Reports (g.exprs ns) (ruleCallsAll g.dialect.rules g.projection.concatenation ns)
  | [] => reports_pure _
  | n :: ns => by
    rw [Generator.exprs, ruleCallsAll]
    exact (reports_expr n).bind fun _ => (reports_exprs ns).map

theorem reports_optionalExpr : ∀ n : Option Node,
    Reports (g.optionalExpr n) (ruleCallsOption g.dialect.rules g.projection.concatenation n)
  | none => reports_pure _
  | some n => by
    rw [Generator.optionalExpr, ruleCallsOption]
    exact (reports_expr n).map

/-- **Writing a condition reports the calls of its operands, in the order in which they are written.** Up to a
refusal, each operand adds its own calls; the escape of a LIKE adds none. -/
theorem reports_predicate : ∀ p : Predicate,
    Reports (g.predicate p) (p.ruleCalls g.dialect.rules g.projection.concatenation)
  | .and operands => by
    rw [Generator.predicate, Predicate.ruleCalls]
    exact (reports_exprs operands).finish
  | .or operands => by
    rw [Generator.predicate, Predicate.ruleCalls]
    exact (reports_exprs operands).finish
  | .not operand => by
    rw [Generator.predicate, Predicate.ruleCalls]
    exact (reports_expr operand).map
  | .equal left right => by
    rw [Generator.predicate, Predicate.ruleCalls]
    exact (reports_expr left).bind fun _ => (reports_expr right).map
  | .notEqual left right => by
    rw [Generator.predicate, Predicate.ruleCalls]
    exact (reports_expr left).bind fun _ => (reports_expr right).map
  | .less left right => by
    rw [Generator.predicate, Predicate.ruleCalls]
    exact (reports_expr left).bind fun _ => (reports_expr right).map
  | .lessEqual left right => by
    rw [Generator.predicate, Predicate.ruleCalls]
    exact (reports_expr left).bind fun _ => (reports_expr right).map
  | .like value pattern escape => by
    -- the escape is read as a text and adds no calls
    rw [Generator.predicate, Predicate.ruleCalls, ← List.append_nil (_ ++ _), List.append_assoc]
    exact (reports_expr value).bind fun _ => (reports_expr pattern).bind fun _ => (reports_ofExcept _).map
  | .regexp value pattern => by
    rw [Generator.predicate, Predicate.ruleCalls]
    exact (reports_expr value).bind fun _ => (reports_expr pattern).map
  | .between value low high => by
    rw [Generator.predicate, Predicate.ruleCalls, List.append_assoc]
    exact (reports_expr value).bind fun _ => (reports_expr low).bind fun _ => (reports_expr high).map
  | .inList value candidates => by
    rw [Generator.predicate, Predicate.ruleCalls]
    split
    · exact reports_refuse _
    · exact (reports_expr value).bind fun _ => (reports_exprs candidates).map
  | .isNull operand => by
    rw [Generator.predicate, Predicate.ruleCalls]
    exact (reports_expr operand).map
  | .isNotNull operand => by
    rw [Generator.predicate, Predicate.ruleCalls]
    exact (reports_expr operand).map

theorem reports_branches : ∀ bs : List Branch,
    Reports (g.branches bs) (ruleCallsBranches g.dialect.rules g.projection.concatenation bs)
  | [] => reports_pure _
  | .mk condition result :: rest => by
    rw [Generator.branches, ruleCallsBranches, List.append_assoc]
    exact (reports_expr condition).bind fun _ => (reports_expr result).bind fun _ =>
      (reports_branches rest).map

theorem reports_sortKeysFrom : ∀ items : List SortItem,
    Reports (g.sortKeysFrom items) (ruleCallsItems g.dialect.rules g.projection.concatenation items)
  | [] => reports_pure _
  | .mk key ascending nullsLast :: rest => by
    rw [Generator.sortKeysFrom, ruleCallsItems]
    exact (reports_expr key).bind fun _ => (reports_sortKeysFrom rest).map

/-- An ordering without keys is refused before anything is reported. -/
theorem reports_optionalSortKeys : ∀ ordering : Option (List SortItem),
    Reports (g.optionalSortKeys ordering) (ruleCallsOrdering g.dialect.rules g.projection.concatenation ordering)
  | none => reports_pure _
  | some items => by
    rw [Generator.optionalSortKeys, ruleCallsOrdering]
    split
    · exact reports_refuse _
    · exact reports_sortKeysFrom items

end

/-! ## Statements -/

/-- What the projection itself does is none of the calls of the tree. -/
structure Projection.Separate (p : Projection) : Prop where
  wildcard : ∀ source, Reports (p.wildcard source) []
  column : ∀ c, Reports (p.column c) []

theorem separate_standard (d : Dialect) : (Projection.standard d).Separate :=
  ⟨fun _ => reports_pure _, fun _ => reports_pure _⟩

/-- PostgreSQL's projection reports nothing by itself: columns are read from their notes, and `*` is expanded without
a call. -/
theorem separate_postgres (d : Dialect) : (Projection.postgres d).Separate := by
  refine ⟨?_, fun c => reports_ofExcept _⟩
  intro source
  cases source with
  | none => exact reports_pure _
  | some source =>
    show Reports (expandWildcard d (some source)) []
    unfold expandWildcard
    refine (reports_ofExcept _).andThen fun needed => ?_
    split
    · exact (reports_emit rfl rfl).finish
    · exact reports_pure _

variable {g} (hg : g.projection.Separate)
include hg

theorem reports_projected (n : Node) :
    Reports (g.projected n) (n.ruleCalls g.dialect.rules g.projection.concatenation) := by
  have hexpr := (reports_expr g n).map (g := Sql.Item.expr)
  cases n with
  | column c => exact hg.column c
  | _ => exact hexpr

theorem reports_projectedItems (ns : List Node) :
    Reports (g.projectedItems ns) (ruleCallsAll g.dialect.rules g.projection.concatenation ns) := by
  induction ns with
  | nil => exact reports_pure _
  | cons n ns ih =>
    rw [Generator.projectedItems, ruleCallsAll]
    exact (reports_projected hg n).bind fun _ => ih.map

/-- Items are written one by one. What stands for `*` or for any value calls nothing. -/
theorem reports_selectItems (source : Option Node) (list : SelectList) :
    Reports (g.selectItems source list) (list.ruleCalls g.dialect.rules g.projection.concatenation) := by
  cases list with
  | anyValue => exact reports_pure _
  | wildcard => exact hg.wildcard source
  | expressions items =>
    rw [Generator.selectItems, SelectList.ruleCalls]
    split
    · exact reports_refuse _
    · exact reports_projectedItems hg items

omit hg in
theorem reports_groupKeys (keys : List Node) :
    Reports (g.groupKeys keys) (ruleCallsAll g.dialect.rules g.projection.concatenation keys) := by
  unfold Generator.groupKeys
  split
  · exact reports_refuse _
  · exact reports_exprs g keys

omit hg in
/-- A FROM clause reports the calls of its conditions, those of the operands of a join before its own. -/
theorem reports_source (n : Node) :
    Reports (g.source n) (n.ruleCalls g.dialect.rules g.projection.concatenation) := by
  induction n using Node.source_induction with
  | table t => exact reports_pure _
  | join kind left right condition hleft hright =>
    have hoperand : Reports (g.operand right) (right.ruleCalls g.dialect.rules g.projection.concatenation) := by
      have hnested := hright.map (g := Sql.Factor.nested)
      cases right with
      | table t => exact reports_pure _
      | _ => exact hnested
    rw [Generator.source_join, Node.ruleCalls, List.append_assoc]
    exact hleft.bind fun _ => hoperand.bind fun _ => (reports_expr g condition).map
  | other n hn =>
    rw [g.source_eq_refuse hn]
    exact reports_refuse _

/-- **A statement reports the calls of its clauses**, one clause after the other. -/
theorem reports_statement (list : SelectList) (relation : Node) (filter : Option Node) (keys : Option (List Node))
    (having : Option Node) (ordering : Option (List SortItem)) (limit : Option Limit) :
    Reports (g.statement list relation filter keys having ordering limit)
      ((Node.select list relation filter keys having ordering limit).ruleCalls g.dialect.rules
        g.projection.concatenation) := by
  rw [Node.ruleCalls]
  simp only [List.append_assoc]
  unfold Generator.statement
  split
  · exact reports_refuse _
  · refine (reports_selectItems hg (some relation) list).bind fun _ => (reports_source relation).bind fun _ =>
      (reports_optionalExpr g filter).bind fun _ => ?_
    cases keys with
    | none => exact (reports_optionalExpr g having).bind fun _ => (reports_optionalSortKeys g ordering).map
    | some keys =>
      exact (reports_groupKeys keys).bind fun _ => (reports_optionalExpr g having).bind fun _ =>
        (reports_optionalSortKeys g ordering).map

/-- **Writing any node reports its calls.** A statement is its clauses in order; all other nodes are expressions or
single clauses. -/
theorem reports_lexemes (n : Node) :
    Reports (g.lexemes n) (n.ruleCalls g.dialect.rules g.projection.concatenation) := by
  have hexpr := (reports_expr g n).map (g := Sql.Expr.lexemes)
  have hsource := (reports_source (g := g) n).map (g := Sql.Source.lexemes)
  cases n with
  | select list relation filter keys having ordering limit =>
    exact (reports_statement hg list relation filter keys having ordering limit).map
  | selectList list =>
    rw [Generator.lexemes, Node.ruleCalls]
    exact (reports_selectItems hg none list).map
  | table t => exact hsource
  | join kind left right condition => exact hsource
  | orderBy items =>
    rw [Generator.lexemes, Node.ruleCalls]
    exact (reports_optionalSortKeys g (some items)).map
  | groupBy keys =>
    rw [Generator.lexemes, Node.ruleCalls]
    exact (reports_groupKeys keys).map
  | limit l => exact reports_pure _
  | _ => exact hexpr

end Generator

/-! ## The whole log -/

namespace Event

/-- What stands in the log for an event of a generation. -/
structure Shows (e : Event) (level : Level) (message : String) (fields : List (String × String)) : Prop where
  level_eq : e.level = level
  target_eq : e.target = "sql_generator"
  message_eq : e.message = message
  fields_eq : e.fields = fields

/-- The words of the events between the first and the last. -/
def stepMessages : List String :=
  ["Applied dialect function rule", "Expanding wildcard to cast remote types", "Dropping ORDER BY inside GROUP_CONCAT"]

theorem message_mem_stepMessages {e : Event} (h : e.isStep) : e.message ∈ stepMessages := by
  cases e with
  | ruleApplied function => exact List.mem_cons_self
  | wildcardExpanded tables => exact List.mem_cons_of_mem _ List.mem_cons_self
  | orderingDropped => exact List.mem_cons_of_mem _ (List.mem_cons_of_mem _ List.mem_cons_self)
  | _ => exact absurd h Bool.false_ne_true

end Event

namespace Generator

/-- The generators there are: the one that any dialect has, and PostgreSQL's own. -/
inductive Provided : Generator → Prop
  | standard (d : Dialect) (context : GenerationContext) : Provided (.standard d context)
  | postgres (folding : CaseFolding) (context : GenerationContext) : Provided (.postgres folding context)

theorem Provided.separate {g : Generator} (h : Provided g) : g.projection.Separate := by
  cases h with
  | standard d context => exact separate_standard d
  | postgres folding context => exact separate_postgres (.postgres folding)

/-- The event that tells how a generation ended. -/
def outcome (g : Generator) (node : Node) : Event :=
  match (g.lexemes node).result with
  | .ok ls => .generated (Sql.render ls)
  | .error e => .generationFailed e.display

/-- The log begins with the start and ends with the outcome, whichever it is. -/
theorem events_generate (g : Generator) (node : Node) :
    (g.generate node).events =
      .generating g.dialect.name node.kind.name :: (g.lexemes node).events ++ [g.outcome node] := by
  unfold generate outcome
  dsimp only
  cases (g.lexemes node).result with
  | ok ls => rfl
  | error e => rfl

/-- The last event tells of success, and of the text, if and only if there is one. -/
theorem result_eq_ok_iff_outcome (g : Generator) (node : Node) (sql : String) :
    (g.generate node).result = .ok sql ↔ (g.outcome node).Shows .debug "Generated SQL" [("sql", sql)] := by
  rw [result_generate]
  unfold outcome
  cases (g.lexemes node).result with
  | ok ls =>
    constructor
    · rintro ⟨⟩
      exact ⟨rfl, rfl, rfl, rfl⟩
    · intro h
      have hfields : [("sql", Sql.render ls)] = [("sql", sql)] := h.fields_eq
      exact congrArg Except.ok (Prod.mk.inj (List.cons.inj hfields).1).2
  | error e =>
    constructor
    · exact nofun
    · intro h
      exact nomatch (h.level_eq : Level.warn = Level.debug)

/-- The last event tells of a failure if and only if there is one. -/
theorem result_eq_error_iff_outcome (g : Generator) (node : Node) :
    (∃ f, (g.generate node).result = .error f) ↔
      ∃ error, (g.outcome node).Shows .warn "SQL generation failed" [("error", error)] := by
  rw [result_generate]
  unfold outcome
  cases (g.lexemes node).result with
  | ok ls =>
    constructor
    · rintro ⟨f, hf⟩
      exact nomatch hf
    · rintro ⟨error, h⟩
      exact nomatch (h.level_eq : Level.debug = Level.warn)
  | error e => exact ⟨fun _ => ⟨e.display, rfl, rfl, rfl, rfl⟩, fun _ => ⟨_, rfl⟩⟩

/-- **The log of a generation.** It begins with the event that names the dialect and the kind of the node. Then come
only events about rules, expanded wildcards and dropped orderings, and last one event about the outcome: that there is
SQL, with the text that is returned, if and only if it is returned, or a warning if and only if generation fails. If it
succeeds, the events about rules are those of the calls that a rule writes, each once, arguments before their call and
clause after clause in the order of `Node.ruleCalls`. -/
theorem log_brackets_outcome (g : Generator) (hg : Provided g) (node : Node) :
    ∃ first steps last, (g.generate node).events = first :: steps ++ [last] ∧
      first.Shows .debug "Generating SQL" [("dialect", g.dialect.name), ("node", node.kind.name)] ∧
      (∀ e ∈ steps, e.message ∈ Event.stepMessages) ∧
      (∀ sql, (g.generate node).result = .ok sql ↔ last.Shows .debug "Generated SQL" [("sql", sql)]) ∧
      ((∃ f, (g.generate node).result = .error f) ↔
        ∃ error, last.Shows .warn "SQL generation failed" [("error", error)]) ∧
      ∀ sql, (g.generate node).result = .ok sql →
        ruleEvents steps = (node.ruleCalls g.dialect.rules g.projection.concatenation).map ruleEvent := by
  have hreports := reports_lexemes hg.separate node
  refine ⟨_, (g.lexemes node).events, g.outcome node, events_generate g node, ⟨rfl, rfl, rfl, rfl⟩, ?_,
    result_eq_ok_iff_outcome g node, result_eq_error_iff_outcome g node, ?_⟩
  · intro e he
    exact Event.message_mem_stepMessages (hreports.steps e he)
  · intro sql hsql
    rw [result_generate] at hsql
    cases hresult : (g.lexemes node).result with
    | ok ls => exact hreports.rules ls hresult
    | error e =>
      rw [hresult] at hsql
      cases hsql

/-- Rules in every clause, one inside another, and one in an ordering that is not written. -/
theorem log_of_rules_in_clauses :
    let g := Generator.postgres .convertToUpper {}
    let date := Node.literal (.date "2024-02-29")
    let part := fun f : ScalarFunction => Node.scalar f [date]
    let table := Node.table { name := "T", metadata := { name := "T", columns := [] } }
    let concat := Node.groupConcat (part .day) false (some [.mk (part .week) true true]) none
    let items := [Node.scalar .second [.scalar .addDays [date, part .month]], concat]
    let node := Node.select (.expressions items) (.join .inner table table (part .minute)) (some (part .year))
      (some [part .posixTime]) (some (.scalar .neg [part .month])) (some [.mk (part .hashMd5) true true]) none
    Provided g ∧ ∃ sql first steps last, (g.generate node).result = .ok sql ∧
      (g.generate node).events = first :: steps ++ [last] ∧ last.Shows .debug "Generated SQL" [("sql", sql)] ∧
      ruleEvents steps =
        ["MONTH", "ADD_DAYS", "SECOND", "DAY", "MINUTE", "YEAR", "POSIX_TIME", "MONTH", "HASH_MD5"].map
          .ruleApplied := by
  intro g date part table concat items node
  have hg : Provided g := .postgres _ _
  have hresult : (g.generate node).result.toOption.isSome := by decide +kernel
  obtain ⟨sql, hsql⟩ := Option.isSome_iff_exists.mp hresult
  have hok := Outcome.eq_ok_of_toOption hsql
  obtain ⟨first, steps, last, hevents, -, -, hlast, -, hrules⟩ := log_brackets_outcome g hg node
  have hcalls : (node.ruleCalls g.dialect.rules g.projection.concatenation).map ruleEvent =
      ["MONTH", "ADD_DAYS", "SECOND", "DAY", "MINUTE", "YEAR", "POSIX_TIME", "MONTH", "HASH_MD5"].map .ruleApplied := by
    decide +kernel
  exact ⟨hg, sql, first, steps, last, hok, hevents, (hlast sql).mp hok, (hrules sql hok).trans hcalls⟩

end Generator

end Pushdown
