import Pushdown.Postgres.Dialect

/-!
# `Proofs.Outcome` — the result of a traced computation, apart from its events

Most statements about generation concern its result only. These lemmas drop the events: the result of a sequence
is the sequence of the results. Where events count, they are those of the parts, one behind the other.

## Contents

* `Traced.result_bind` — the result of a sequence.
* `Traced.bind_assoc`, `Traced.events_bind_of_ok`, `Traced.events_bind_of_error` — the events of a sequence.
* `Outcome.bind_eq_ok_iff`, `Outcome.exists_bind_eq_ok_iff`, `Traced.result_bind_eq_ok_iff` — when a sequence
  succeeds.
* `Generator.result_generate`, `Generator.result_statement`, `Generator.result_groupConcat` — the result of a
  whole generation, of a statement and of a string aggregation.
* `Generator.source_eq_refuse`, `Generator.source_join` — what is no FROM clause, and a join, its right operand
  apart.
-/

namespace Pushdown

variable {ε α β : Type}

namespace Traced

@[simp] theorem result_refuse (e : ε) : (refuse e : Traced ε α).result = .error e := rfl

@[simp] theorem result_ofExcept (r : Except ε α) : (ofExcept r).result = r := rfl

/-- The result of a sequence is the sequence of the results. -/
@[simp] theorem result_bind (x : Traced ε α) (f : α → Traced ε β) :
    (x >>= f).result = x.result.bind fun a => (f a).result := by
  show (Traced.bind x f).result = _
  unfold Traced.bind
  cases x.result with
  | ok a => rfl
  | error e => rfl

@[simp] theorem result_ite (c : Prop) [Decidable c] (x y : Traced ε α) :
    (if c then x else y).result = if c then x.result else y.result :=
  apply_ite Traced.result c x y

/-- Another kind of refusal does not change what is returned. -/
theorem result_mapError_eq_ok_iff {ε' : Type} {f : ε → ε'} {x : Traced ε α} {a : α} :
    (x.mapError f).result = .ok a ↔ x.result = .ok a := by
  show x.result.mapError f = .ok a ↔ _
  cases x.result with
  | ok b =>
    constructor
    · rintro ⟨⟩
      rfl
    · rintro ⟨⟩
      rfl
  | error e => exact ⟨nofun, nofun⟩

/-- Events add up from left to right, whichever way a sequence is put in parentheses. -/
theorem bind_assoc {γ : Type} (x : Traced ε α) (f : α → Traced ε β) (h : β → Traced ε γ) :
    x >>= f >>= h = x >>= fun a => f a >>= h := by
  show Traced.bind (Traced.bind x f) h = Traced.bind x fun a => Traced.bind (f a) h
  simp only [Traced.bind]
  cases x.result with
  | error e => rfl
  | ok a =>
    dsimp only
    cases (f a).result with
    | error e => rfl
    | ok b => exact congrArg (Traced.mk · (h b).result) (List.append_assoc ..)

theorem pure_bind (a : α) (f : α → Traced ε β) : pure a >>= f = f a := rfl

theorem bind_pure (x : Traced ε α) : x >>= pure = x := by
  show Traced.bind x pure = x
  obtain ⟨events, result⟩ := x
  cases result with
  | ok a => exact congrArg (Traced.mk · (.ok a)) (List.append_nil events)
  | error e => rfl

/-- What comes behind a result is reported behind it. -/
theorem events_bind_of_ok {x : Traced ε α} {a : α} (h : x.result = .ok a) (f : α → Traced ε β) :
    (x >>= f).events = x.events ++ (f a).events := by
  show (Traced.bind x f).events = _
  rw [Traced.bind, h]

/-- Behind a refusal nothing more is reported. -/
theorem events_bind_of_error {x : Traced ε α} {e : ε} (h : x.result = .error e) (f : α → Traced ε β) :
    (x >>= f).events = x.events := by
  show (Traced.bind x f).events = _
  rw [Traced.bind, h]

end Traced

namespace Outcome

@[simp] theorem ok_bind (a : α) (f : α → Except ε β) : (Except.ok a).bind f = f a := rfl

@[simp] theorem error_bind (e : ε) (f : α → Except ε β) : (Except.error e).bind f = .error e := rfl

/-- A sequence succeeds if and only if both parts do. -/
theorem bind_eq_ok_iff {x : Except ε α} {f : α → Except ε β} {b : β} :
    x.bind f = .ok b ↔ ∃ a, x = .ok a ∧ f a = .ok b := by
  cases x with
  | ok a => simp
  | error e => simp

/-- A sequence succeeds if and only if its first part does, and its second part on what the first one gives. -/
theorem exists_bind_eq_ok_iff {x : Except ε α} {f : α → Except ε β} :
    (∃ b, x.bind f = .ok b) ↔ ∃ a, x = .ok a ∧ ∃ b, f a = .ok b := by
  simp only [bind_eq_ok_iff]
  constructor
  · rintro ⟨b, a, ha, hb⟩
    exact ⟨a, ha, b, hb⟩
  · rintro ⟨a, ha, b, hb⟩
    exact ⟨b, a, ha, hb⟩

theorem eq_ok_of_toOption {x : Except ε α} {a : α} (h : x.toOption = some a) : x = .ok a := by
  cases x with
  | ok b => exact congrArg Except.ok (Option.some.inj h)
  | error e => cases h

end Outcome

namespace Traced

theorem result_bind_eq_ok_iff {x : Traced ε α} {f : α → Traced ε β} {b : β} :
    (x >>= f).result = .ok b ↔ ∃ a, x.result = .ok a ∧ (f a).result = .ok b := by
  rw [result_bind, Outcome.bind_eq_ok_iff]

theorem result_pure_eq_ok_iff {a b : α} : (pure a : Traced ε α).result = .ok b ↔ a = b := by
  rw [result_pure, Except.ok.injEq]

end Traced

/-! ## The generator -/

namespace Generator

variable (g : Generator)

/-- The result of a whole generation is that of its lexemes, in the form that a caller gets. -/
theorem result_generate (node : Node) :
    (g.generate node).result =
      match (g.lexemes node).result with
      | .ok ls => .ok (Sql.render ls)
      | .error e => .error (e.toFailure g.dialect.name) := by
  unfold generate
  dsimp only
  cases (g.lexemes node).result with
  | ok ls => rfl
  | error e => rfl

/-- What is neither a table nor a join is no FROM clause. -/
theorem source_eq_refuse {node : Node} (h : node.isRelation = false) :
    g.source node = Traced.refuse (.relationExpected node.kind) := by
  cases node with
  | table | join => cases h
  | _ => rfl

/-- The right operand of a join. A join there is put in parentheses. -/
def operand : Node → Generating Sql.Factor
  | .table t => pure (tableFactor g.dialect g.context t)
  | node => do
    let nested ← g.source node
    pure (.nested nested)

/-- A join is written from left to right, its condition last. -/
theorem source_join (kind : JoinKind) (left right condition : Node) :
    g.source (.join kind left right condition) =
      (g.source left >>= fun left => g.operand right >>= fun factor => g.expr condition >>= fun condition =>
        pure (left.push (.mk kind factor condition))) := by
  rw [source]
  cases right with
  | join kind l r condition => simp only [operand, Traced.bind_assoc]
  | _ => rfl

/-- The grouping of a statement, if it has one. -/
def grouping (keys : Option (List Node)) : Except GenerationError (List Sql.Expr) :=
  match keys with
  | some keys => (g.groupKeys keys).result
  | none => .ok []

/-- The result of a statement is made of the results of its clauses, in order. -/
theorem result_statement {relation : Node} (h : relation.isRelation) (list : SelectList)
    (filter : Option Node) (keys : Option (List Node)) (having : Option Node)
    (ordering : Option (List SortItem)) (limit : Option Limit) :
    (g.statement list relation filter keys having ordering limit).result =
      (g.selectItems (some relation) list).result.bind fun items =>
      (g.source relation).result.bind fun source =>
      (g.optionalExpr filter).result.bind fun filter =>
      (g.grouping keys).bind fun groupBy =>
      (g.optionalExpr having).result.bind fun having =>
      (g.optionalSortKeys ordering).result.bind fun orderBy =>
      .ok { items, source, filter, groupBy, having, orderBy, limit } := by
  unfold statement grouping
  simp only [h]
  cases keys with
  | none => simp
  | some keys => simp

end Generator

/-- A string aggregation is a call. Its ordering leaves an event behind and has no part in the result. -/
theorem Generator.result_groupConcat (folding : CaseFolding) (context : GenerationContext) (argument : Node)
    (distinct : Bool) (ordering : Option (List SortItem)) (separator : Option String) :
    ((Generator.postgres folding context).expr
        (.groupConcat argument distinct ordering separator)).result =
      ((Generator.postgres folding context).expr argument).result.bind fun e =>
        .ok (.call "STRING_AGG" distinct [e, separatorExpr (.postgres folding) separator]) := by
  have hway : (Generator.postgres folding context).projection.concatenation = .stringAgg := rfl
  rw [Generator.expr]
  simp only [hway]
  cases ordering with
  | none => simp [Generator.postgres]
  | some items => simp [Generator.postgres]

end Pushdown
