import Mathlib.Data.List.Dedup
import Pushdown.Proofs.Enumeration
import Pushdown.Proofs.Generation.Alike

/-!
# `Proofs.Generation.Registration` — the rules of a dialect after any number of registrations

Rules are registered one after the other, and the rules of a dialect are what a whole history of registrations leaves.
One registration touches one function, so after a history each function has the last rule that the history has for
it, and a function that the history does not name has none. The generator asks for the rule of a call before
anything else. A rule therefore decides how its own function is written, whatever that function is, and it
has no part in any other call of the tree.

## Contents

* `FunctionRules.IsLast` — the last rule of a history for a function.
* `FunctionRules.rule?_eq_some_iff`, `FunctionRules.rule?_eq_none_iff` — the rules that a history leaves.
* `FunctionRules.size_eq` — how many functions have a rule.
* `Generator.expr_scalar_of_rule`, `Generator.expr_scalar_of_no_rule` — calls with and without a rule.
* `Generator.generate_congr` — the rules of functions that a tree does not call.
* `Generator.last_registration_wins` — all of it.
-/

namespace Pushdown

namespace FunctionRules

variable {history before after : List (ScalarFunction × Rule)} {f : ScalarFunction} {rule : Rule}

/-! ## Histories -/

/-- The rule is the last one that the history has for the function. -/
def IsLast (history : List (ScalarFunction × Rule)) (f : ScalarFunction) (rule : Rule) : Prop :=
  ∃ before after, history = before ++ (f, rule) :: after ∧ ∀ entry ∈ after, entry.1 ≠ f

/-- The history has no rule for the function. -/
def Absent (history : List (ScalarFunction × Rule)) (f : ScalarFunction) : Prop := ∀ entry ∈ history, entry.1 ≠ f

instance : Decidable (Absent history f) := inferInstanceAs (Decidable (∀ entry ∈ history, entry.1 ≠ f))

theorem absent_nil : Absent [] f := List.forall_mem_nil _

/-- A function has a last rule in a history, or none at all. -/
theorem isLast_or_absent (history : List (ScalarFunction × Rule)) (f : ScalarFunction) :
    (∃ rule, IsLast history f rule) ∨ Absent history f := by
  induction history with
  | nil => exact .inr absent_nil
  | cons entry history ih =>
    obtain ⟨rule, before, after, rfl, hafter⟩ | habsent := ih
    · exact .inl ⟨rule, entry :: before, after, rfl, hafter⟩
    · by_cases h : entry.1 = f
      · exact .inl ⟨entry.2, [], history, by rw [← h]; rfl, habsent⟩
      · refine .inr fun e he => ?_
        rcases List.mem_cons.mp he with rfl | he
        · exact h
        · exact habsent e he

theorem IsLast.not_absent (h : IsLast history f rule) : ¬ Absent history f := by
  obtain ⟨before, after, rfl, -⟩ := h
  intro habsent
  exact habsent (f, rule) (List.mem_append_right before List.mem_cons_self) rfl

theorem absent_iff_not_mem : Absent history f ↔ f ∉ history.map Prod.fst := by
  rw [List.mem_map]
  constructor
  · rintro h ⟨entry, hentry, hf⟩
    exact h entry hentry hf
  · intro h entry hentry hf
    exact h ⟨entry, hentry, hf⟩

/-! ## One registration, and many -/

theorem rule?_insert_self (rules : FunctionRules) : (rules.insert f rule).rule? f = some rule := if_pos rfl

/-- A registration leaves every other function as it was. -/
theorem rule?_insert_of_ne (rules : FunctionRules) {g : ScalarFunction} (h : g ≠ f) :
    (rules.insert g rule).rule? f = rules.rule? f := if_neg fun hf => h hf.symm

theorem insertMany_append (rules : FunctionRules) (before after : List (ScalarFunction × Rule)) :
    rules.insertMany (before ++ after) = (rules.insertMany before).insertMany after := List.foldl_append

/-- A history leaves every function as it was that it does not name. -/
theorem rule?_insertMany_of_absent (rules : FunctionRules) (h : Absent history f) :
    (rules.insertMany history).rule? f = rules.rule? f := by
  induction history generalizing rules with
  | nil => rfl
  | cons entry history ih =>
    show ((rules.insert entry.1 entry.2).insertMany history).rule? f = _
    rw [ih _ fun e he => h e (List.mem_cons_of_mem entry he), rule?_insert_of_ne rules (h entry List.mem_cons_self)]

/-- The last rule for a function is the one that stays. -/
theorem rule?_insertMany_of_isLast (rules : FunctionRules) (h : IsLast history f rule) :
    (rules.insertMany history).rule? f = some rule := by
  obtain ⟨before, after, rfl, hafter⟩ := h
  rw [insertMany_append]
  show (((rules.insertMany before).insert f rule).insertMany after).rule? f = _
  rw [rule?_insertMany_of_absent _ hafter, rule?_insert_self]

/-- **A function has the last rule that the history has for it.** -/
theorem rule?_eq_some_iff : (empty.insertMany history).rule? f = some rule ↔ IsLast history f rule := by
  refine ⟨fun h => ?_, rule?_insertMany_of_isLast empty⟩
  obtain ⟨rule', hlast⟩ | habsent := isLast_or_absent history f
  · rw [rule?_insertMany_of_isLast empty hlast] at h
    rwa [← Option.some.inj h]
  · rw [rule?_insertMany_of_absent empty habsent] at h
    cases h

theorem rule?_eq_none_iff : (empty.insertMany history).rule? f = none ↔ Absent history f := by
  refine ⟨fun h => ?_, rule?_insertMany_of_absent empty⟩
  obtain ⟨rule, hlast⟩ | habsent := isLast_or_absent history f
  · rw [rule?_insertMany_of_isLast empty hlast] at h
    cases h
  · exact habsent

/-! ## What rules answer -/

section Answers

variable {rules : FunctionRules} (arguments : List Sql.Expr)

theorem call?_of_rule (h : rules.rule? f = some rule) : rules.call? f arguments = (rule.apply arguments).map some := by
  rw [call?, h]

theorem call?_of_no_rule (h : rules.rule? f = none) : rules.call? f arguments = .ok none := by
  rw [call?, h]

/-- A call is left alone exactly if there is no rule for its function: a rule makes something of it or refuses it. -/
theorem call?_eq_ok_none_iff : rules.call? f arguments = .ok none ↔ rules.rule? f = none := by
  refine ⟨fun h => ?_, call?_of_no_rule arguments⟩
  cases hrule : rules.rule? f with
  | none => rfl
  | some rule =>
    rw [call?_of_rule arguments hrule] at h
    cases hwritten : rule.apply arguments with
    | ok e =>
      rw [hwritten] at h
      cases h
    | error e =>
      rw [hwritten] at h
      cases h

end Answers

/-- Only a rename gives a function another name. -/
theorem otherName?_eq_some_iff {rules : FunctionRules} {name : String} :
    rules.otherName? f = some name ↔ rules.rule? f = some (.rename name) := by
  rw [otherName?, Option.bind_eq_some_iff]
  constructor
  · rintro ⟨rule, hrule, hname⟩
    cases rule with
    | rename other =>
      cases hname
      exact hrule
    | transform write => cases hname
  · intro hrule
    exact ⟨_, hrule, rfl⟩

/-- The number of rules is the number of functions that the history names, each counted once. -/
theorem size_eq (history : List (ScalarFunction × Rule)) :
    (empty.insertMany history).size = (history.map Prod.fst).dedup.length := by
  have hrule : ∀ f, (empty.insertMany history).hasRule f ↔ f ∈ history.map Prod.fst := by
    intro f
    rw [hasRule, Option.isSome_iff_ne_none, Ne, rule?_eq_none_iff, absent_iff_not_mem, not_not]
  rw [size, List.countP_eq_length_filter]
  apply List.Perm.length_eq
  rw [List.perm_ext_iff_of_nodup (Enumeration.nodup_all.filter _) (List.nodup_dedup _)]
  intro f
  rw [List.mem_filter, List.mem_dedup, hrule, and_iff_right (Enumeration.mem_all f)]

end FunctionRules

/-! ## Calls in the tree -/

/-- A call is one of these functions. -/
def Node.callsWithin (called : ScalarFunction → Bool) : Node → Bool
  | .scalar function _ => called function
  | _ => true

/-- A call that a rule writes: what the rule makes of the arguments and, unless it refuses, the event that tells of
it. -/
def Rule.written (rule : Rule) (f : ScalarFunction) (arguments : List Sql.Expr) : Generating Sql.Expr := do
  let e ← Traced.ofExcept (rule.apply arguments)
  Traced.emit (.ruleApplied (Enumeration.name f))
  pure e

namespace Generator

open FunctionRules (IsLast Absent)

section Calls

variable (g : Generator) {f : ScalarFunction} {rule : Rule} (arguments : List Node)

/-- A call with a rule is what the rule makes of its arguments. -/
theorem expr_scalar_of_rule (h : g.dialect.rules.rule? f = some rule) :
    g.expr (.scalar f arguments) = g.exprs arguments >>= rule.written f := by
  rw [expr]
  refine congrArg (g.exprs arguments >>= ·) (funext fun es => ?_)
  rw [scalarExpr, FunctionRules.call?_of_rule es h, Rule.written]
  cases rule.apply es with
  | ok e => rfl
  | error e => rfl

/-- A call without a rule is what the dialect makes of its arguments without any rules. -/
theorem expr_scalar_of_no_rule (h : g.dialect.rules.rule? f = none) :
    g.expr (.scalar f arguments) =
      g.exprs arguments >>= scalarExpr { g.dialect with rules := .empty } f := by
  rw [expr]
  refine congrArg (g.exprs arguments >>= ·) (funext fun es => ?_)
  rw [scalarExpr, FunctionRules.call?_of_no_rule es h]
  rfl

end Calls

theorem scalarExpr_congr {d : Dialect} {rules : FunctionRules} {f : ScalarFunction}
    (h : d.rules.rule? f = rules.rule? f) : scalarExpr d f = scalarExpr { d with rules } f := by
  funext es
  have hcall : d.rules.call? f es = rules.call? f es := by
    rw [FunctionRules.call?, FunctionRules.call?, h]
  rw [scalarExpr, hcall]
  rfl

/-- Generators with the same rules for the functions of a tree write it alike. -/
theorem generate_congr {d : Dialect} {rules : FunctionRules} {called : ScalarFunction → Bool}
    (h : ∀ f, called f → d.rules.rule? f = rules.rule? f) (context : GenerationContext) (n : Node)
    (hn : n.every (Node.callsWithin called)) :
    (standard d context).generate n = (standard { d with rules } context).generate n := by
  have halike : Alike (Node.callsWithin called) (standard d context) (standard { d with rules } context) :=
    { column := rfl, literal := rfl, separator := rfl, sortKey := rfl, regexp := rfl, table := rfl
      call := fun f _ hcalled => scalarExpr_congr (h f hcalled)
      concatenation := fun _ _ _ _ _ => rfl
      anyValue := fun _ _ _ => rfl
      wildcard := fun _ _ _ => rfl
      selected := fun _ _ _ _ _ _ => rfl }
  exact halike.generate rfl n hn

/-- The text of a call is that of the expression it is written as. -/
theorem result_generate_scalar {g : Generator} {f : ScalarFunction} {arguments : List Node} {e : Sql.Expr}
    (h : (g.expr (.scalar f arguments)).result = .ok e) :
    (g.generate (.scalar f arguments)).result = .ok (Sql.render e.lexemes) := by
  have hlexemes : (g.lexemes (.scalar f arguments)).result = .ok e.lexemes :=
    Traced.result_bind_eq_ok_iff.mpr ⟨e, h, rfl⟩
  rw [result_generate, hlexemes]

/-- **The last registration wins, and nothing else changes.** Rules are registered in any order and any number, on no
rules or on those of PostgreSQL. For each function the answers of the rules are those of the last rule that was
registered for it: it has another name exactly if that rule is a rename, and a call is left alone exactly if there is
no rule. There are as many rules as functions were registered. In the standard generator of any dialect with these
rules, a call of a function with a rule is what the rule makes of the written arguments, whatever the function is, and
every other call is what the dialect without any rules makes of them. A tree is written alike under two histories that
end with the same rules for the functions that it calls. -/
theorem last_registration_wins (start : FunctionRules) (base entries : List (ScalarFunction × Rule))
    (hstart : start = .empty ∧ base = [] ∨ start = .postgres ∧ base = FunctionRules.postgresEntries) :
    let rules := start.insertMany entries
    let history := base ++ entries
    (∀ f rule, IsLast history f rule → rules.hasRule f = true ∧ rules.otherName? f = rule.otherName? ∧
      ∀ arguments, rules.call? f arguments = (rule.apply arguments).map some) ∧
    (∀ f, Absent history f → rules.hasRule f = false ∧ rules.otherName? f = none) ∧
    (∀ f, (rules.otherName? f).isSome ↔ ∃ name, IsLast history f (.rename name)) ∧
    (∀ f arguments, rules.call? f arguments = .ok none ↔ Absent history f) ∧
    rules.size = (history.map Prod.fst).dedup.length ∧
    ∀ (d : Dialect) (context : GenerationContext),
      let g := standard { d with rules } context
      (∀ f rule arguments, IsLast history f rule →
        g.expr (.scalar f arguments) = g.exprs arguments >>= rule.written f) ∧
      (∀ f arguments, Absent history f →
        g.expr (.scalar f arguments) = g.exprs arguments >>= scalarExpr { d with rules := .empty } f) ∧
      ∀ other called (n : Node), (∀ f, called f → ∀ rule, IsLast history f rule ↔ IsLast other f rule) →
        n.every (Node.callsWithin called) →
          g.generate n = (standard { d with rules := FunctionRules.empty.insertMany other } context).generate n := by
  intro rules history
  have hrules : rules = FunctionRules.empty.insertMany history := by
    obtain ⟨rfl, rfl⟩ | ⟨rfl, rfl⟩ := hstart
    · rfl
    · exact (FunctionRules.insertMany_append _ _ _).symm
  have hlast : ∀ {f rule}, rules.rule? f = some rule ↔ IsLast history f rule := by
    rw [hrules]
    exact FunctionRules.rule?_eq_some_iff
  have habsent : ∀ {f}, rules.rule? f = none ↔ Absent history f := by
    rw [hrules]
    exact FunctionRules.rule?_eq_none_iff
  refine ⟨?_, ?_, ?_, ?_, ?_, fun d context => ⟨?_, ?_, ?_⟩⟩
  · intro f rule h
    have hrule := hlast.mpr h
    refine ⟨?_, ?_, fun arguments => FunctionRules.call?_of_rule arguments hrule⟩
    · rw [FunctionRules.hasRule, hrule, Option.isSome_some]
    · rw [FunctionRules.otherName?, hrule, Option.bind_some]
  · intro f h
    have hrule := habsent.mpr h
    rw [FunctionRules.hasRule, FunctionRules.otherName?, hrule]
    exact ⟨rfl, rfl⟩
  · intro f
    simp only [Option.isSome_iff_exists, FunctionRules.otherName?_eq_some_iff, hlast]
  · intro f arguments
    rw [FunctionRules.call?_eq_ok_none_iff, habsent]
  · rw [hrules, FunctionRules.size_eq]
  · intro f rule arguments h
    exact expr_scalar_of_rule (standard { d with rules } context) arguments (hlast.mpr h)
  · intro f arguments h
    exact expr_scalar_of_no_rule (standard { d with rules } context) arguments (habsent.mpr h)
  · intro other called n hsame hn
    have hagree : ∀ f, called f → rules.rule? f = (FunctionRules.empty.insertMany other).rule? f := by
      intro f hf
      apply Option.ext
      intro rule
      rw [hlast, FunctionRules.rule?_eq_some_iff]
      exact hsame f hf rule
    exact generate_congr (d := { d with rules }) hagree context n hn

/-- On top of PostgreSQL's rules: a function renamed twice, an operator, a negation and a function without parentheses
that get a rule, and another operator that does not. -/
theorem registrations_on_postgres :
    let entries : List (ScalarFunction × Rule) :=
      [(.rand, .rename "RAND_DOUBLE"), (.add, .rename "PLUS"), (.neg, .reorder .neg "MINUS" [0]),
        (.currentDate, .rename "TODAY"), (.rand, .rename "DRAW")]
    let rules := FunctionRules.postgres.insertMany entries
    let g := standard { Dialect.ansi with omitsParentheses := (· = .currentDate), rules } {}
    let one := Node.literal (.exact "1")
    rules.otherName? .rand = some "DRAW" ∧ rules.otherName? .substr = some "SUBSTRING" ∧ rules.size = 20 ∧
      (g.generate (.scalar .add [.scalar .currentDate [], .scalar .neg [one]])).result =
        .ok "PLUS(TODAY(), MINUS(1))" ∧
      (g.generate (.scalar .sub [one, one])).result = .ok "(1 - 1)" ∧
      (g.generate (.scalar .sub [one, one])).result =
        ((standard { Dialect.ansi with omitsParentheses := (· = .currentDate) } {}).generate
          (.scalar .sub [one, one])).result := by
  intro entries rules g one
  obtain ⟨hrule, -, -, -, hsize, hcalls⟩ :=
    last_registration_wins .postgres FunctionRules.postgresEntries entries (.inr ⟨rfl, rfl⟩)
  obtain ⟨hwritten, hplain, hframe⟩ := hcalls { Dialect.ansi with omitsParentheses := (· = .currentDate) } {}
  have hsub : Absent (FunctionRules.postgresEntries ++ entries) .sub := by decide
  have hadd : g.expr (.scalar .add [.scalar .currentDate [], .scalar .neg [one]]) =
      g.exprs [.scalar .currentDate [], .scalar .neg [one]] >>= (Rule.rename "PLUS").written .add :=
    hwritten .add _ _ ⟨FunctionRules.postgresEntries ++ entries.take 1, entries.drop 2, rfl, by decide⟩
  have hcalled : (g.expr (.scalar .add [.scalar .currentDate [], .scalar .neg [one]])).result =
      .ok (.apply "PLUS" [.apply "TODAY" [], .apply "MINUS" [.number "1"]]) := by
    rw [hadd]
    rfl
  have hbetween : (g.expr (.scalar .sub [one, one])).result =
      .ok (.nested (.binary .minus (.number "1") (.number "1"))) := by
    rw [hplain .sub [one, one] hsub]
    rfl
  refine ⟨?_, ?_, ?_, ?_, ?_, ?_⟩
  · exact (hrule .rand (.rename "DRAW")
      ⟨FunctionRules.postgresEntries ++ entries.take 4, [], rfl, FunctionRules.absent_nil⟩).2.1
  · exact (hrule .substr (.rename "SUBSTRING")
      ⟨[], FunctionRules.postgresEntries.drop 1 ++ entries, rfl, by decide⟩).2.1
  · rw [hsize]
    decide
  · rw [result_generate_scalar hcalled]
    exact congrArg Except.ok (by decide +kernel)
  · rw [result_generate_scalar hbetween]
    exact congrArg Except.ok (by decide +kernel)
  · have hsame : ∀ f, (f = .sub : Bool) → ∀ rule,
        IsLast (FunctionRules.postgresEntries ++ entries) f rule ↔ IsLast [] f rule := by
      intro f hf rule
      obtain rfl := of_decide_eq_true hf
      exact iff_of_false (fun h => h.not_absent hsub) fun h => h.not_absent FunctionRules.absent_nil
    rw [hframe [] _ (.scalar .sub [one, one]) hsame rfl]
    rfl

end Generator

end Pushdown
