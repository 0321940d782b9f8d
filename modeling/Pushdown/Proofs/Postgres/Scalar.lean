import Pushdown.Postgres.Dialect
import Pushdown.Proofs.Outcome

/-!
# `Proofs.Postgres.Scalar` — how PostgreSQL writes a call of a scalar function

A call goes through the rules of the dialect, then through the functions without parentheses, the arithmetic
operators and the negation. Which of these applies depends on the function alone. `ScalarForm` names the eight
possibilities, and `result_scalarExpr` says once what each of them writes: everything that is proved about
calls starts from there.

## Contents

* `ScalarForm`, `ScalarFunction.form` — the form of each function.
* `ScalarForm.write` — the call that a form writes.
* `result_scalarExpr` — the generator writes a call by the form of its function.
-/

namespace Pushdown

/-- How PostgreSQL writes a scalar function. -/
inductive ScalarForm
  /-- Under another name. -/
  | renamed (name : String)
  /-- As a date to which an amount of a unit is added. -/
  | interval (unit : String)
  /-- As a part of a date. -/
  | datePart
  /-- As the seconds since the epoch. -/
  | epoch
  /-- Without parentheses if there are no arguments. -/
  | bare
  /-- As an operator between two operands. -/
  | between (operator : Sql.Operator)
  /-- As a sign in front of its operand. -/
  | sign
  /-- As a call of the same name. -/
  | call
deriving DecidableEq

/-- The form of a scalar function. -/
def ScalarFunction.form : ScalarFunction → ScalarForm
  | .substr => .renamed "SUBSTRING"
  | .hashMd5 => .renamed "MD5"
  | .rand => .renamed "RANDOM"
  | .addDays => .interval "days"
  | .addHours => .interval "hours"
  | .addMinutes => .interval "mins"
  | .addSeconds => .interval "secs"
  | .addWeeks => .interval "weeks"
  | .addMonths => .interval "months"
  | .addYears => .interval "years"
  | .second | .minute | .day | .week | .month | .year => .datePart
  | .posixTime => .epoch
  | .currentDate | .currentTimestamp | .localtimestamp => .bare
  | .add => .between .plus
  | .sub => .between .minus
  | .mult => .between .times
  | .floatDiv => .between .divide
  | .neg => .sign
  | _ => .call

namespace ScalarForm

/-- The number of arguments that a form takes, if it takes a fixed number of them. -/
def arity? : ScalarForm → Option Nat
  | .interval _ | .between _ => some 2
  | .datePart | .epoch | .sign => some 1
  | .renamed _ | .bare | .call => none

/-- The call that a form writes. -/
def write (function : ScalarFunction) (arguments : List Sql.Expr) :
    ScalarForm → Except GenerationError Sql.Expr
  | .renamed name => .ok (Sql.Expr.apply name arguments)
  | .interval unit =>
    match arguments with
    | [date, amount] => .ok (.binary .plus date (.callNamed "make_interval" unit amount))
    | _ => .error (.argumentCount function 2 arguments.length)
  | .datePart =>
    match arguments with
    | [date] => .ok (.datePart (Enumeration.name function) date)
    | _ => .error (.argumentCount function 1 arguments.length)
  | .epoch =>
    match arguments with
    | [date] => .ok (.extract "EPOCH" date)
    | _ => .error (.argumentCount function 1 arguments.length)
  | .bare =>
    match arguments with
    | [] => .ok (.bare (Enumeration.name function))
    | _ => .ok (Sql.Expr.apply (Enumeration.name function) arguments)
  | .between operator =>
    match arguments with
    | [left, right] => .ok (.nested (.binary operator left right))
    | _ => .error (.argumentCount function 2 arguments.length)
  | .sign =>
    match arguments with
    | [operand] => .ok (.negate (.nested operand))
    | _ => .error (.argumentCount function 1 arguments.length)
  | .call => .ok (Sql.Expr.apply (Enumeration.name function) arguments)

/-- A form succeeds if it gets as many arguments as it takes. -/
theorem exists_write_eq_ok_iff (form : ScalarForm) (function : ScalarFunction)
    (arguments : List Sql.Expr) :
    (∃ e, form.write function arguments = .ok e) ↔
      ∀ expected ∈ form.arity?, arguments.length = expected := by
  cases form <;>
    rcases arguments with _ | ⟨a, _ | ⟨b, _ | ⟨c, rest⟩⟩⟩ <;>
      simp [write, arity?]

/-- The rule that a form stands for. -/
def rule? (function : ScalarFunction) : ScalarForm → Option Rule
  | .renamed name => some (.rename name)
  | .interval unit => some (addInterval function unit)
  | .datePart => some (Pushdown.datePart function)
  | .epoch => some (Pushdown.epoch function)
  | .bare | .between _ | .sign | .call => none

/-- The operator that a form stands for. -/
def operator? : ScalarForm → Option Sql.Operator
  | .between operator => some operator
  | _ => none

end ScalarForm

/-! ## The tables of the dialect, by form -/

theorem rule?_postgres (f : ScalarFunction) : FunctionRules.postgres.rule? f = f.form.rule? f := by
  cases f <;> rfl

theorem arithmeticOperator?_eq (f : ScalarFunction) : arithmeticOperator? f = f.form.operator? := by
  cases f <;> rfl

theorem postgresOmitsParentheses_eq (f : ScalarFunction) :
    Dialect.postgresOmitsParentheses f = decide (f.form = .bare) := by
  cases f <;> rfl

theorem eq_neg_iff (f : ScalarFunction) : f = .neg ↔ f.form = .sign := by
  cases f <;> decide

/-! ## Calls -/

/-- A call without a rule is written by the form of its function. -/
theorem plainCall_postgres (folding : CaseFolding) {f : ScalarFunction} (arguments : List Sql.Expr)
    (h : f.form.rule? f = none) :
    plainCall (.postgres folding) f arguments = f.form.write f arguments := by
  have hop := arithmeticOperator?_eq f
  have hbare := postgresOmitsParentheses_eq f
  have hneg := eq_neg_iff f
  simp only [plainCall, Dialect.postgres, hop, hbare, hneg]
  cases hf : f.form with
  | renamed name => simp [hf, ScalarForm.rule?] at h
  | interval unit => simp [hf, ScalarForm.rule?] at h
  | datePart => simp [hf, ScalarForm.rule?] at h
  | epoch => simp [hf, ScalarForm.rule?] at h
  | bare => cases arguments <;> simp [ScalarForm.write, ScalarForm.operator?]
  | between operator =>
    rcases arguments with _ | ⟨a, _ | ⟨b, _ | ⟨c, rest⟩⟩⟩ <;>
      simp [ScalarForm.write, ScalarForm.operator?]
  | sign =>
    rcases arguments with _ | ⟨a, _ | ⟨b, rest⟩⟩ <;> simp [ScalarForm.write, ScalarForm.operator?]
  | call => simp [ScalarForm.write, ScalarForm.operator?]

/-- A call with a rule is written by the form of its function. -/
theorem apply_rule {f : ScalarFunction} {rule : Rule} (arguments : List Sql.Expr)
    (h : f.form.rule? f = some rule) : rule.apply arguments = f.form.write f arguments := by
  cases hf : f.form <;> simp only [hf, ScalarForm.rule?, reduceCtorEq, Option.some.injEq] at h <;> subst h
  case renamed name => rfl
  case interval unit =>
    -- a rule with a fixed number of arguments refuses every other list
    rcases arguments with _ | ⟨a, _ | ⟨b, _ | ⟨c, rest⟩⟩⟩ <;>
      simp [ScalarForm.write, Rule.apply, addInterval, argument, bind, pure, Except.bind, Except.pure]
  case datePart =>
    rcases arguments with _ | ⟨a, _ | ⟨b, rest⟩⟩ <;>
      simp [ScalarForm.write, Rule.apply, datePart, argument, bind, pure, Except.bind, Except.pure]
  case epoch =>
    rcases arguments with _ | ⟨a, _ | ⟨b, rest⟩⟩ <;>
      simp [ScalarForm.write, Rule.apply, epoch, argument, bind, pure, Except.bind, Except.pure]

/-- **The generator writes a call by the form of its function.** -/
theorem result_scalarExpr (folding : CaseFolding) (f : ScalarFunction) (arguments : List Sql.Expr) :
    (scalarExpr (.postgres folding) f arguments).result = f.form.write f arguments := by
  have hrule := rule?_postgres f
  simp only [scalarExpr, Traced.result_bind, Traced.result_ofExcept]
  show Except.bind (FunctionRules.postgres.call? f arguments) _ = _
  rw [FunctionRules.call?, hrule]
  cases h : f.form.rule? f with
  | none => simp [plainCall_postgres folding arguments h]
  | some rule =>
    simp only [apply_rule arguments h]
    cases f.form.write f arguments with
    | ok e => rfl
    | error e => rfl

end Pushdown
