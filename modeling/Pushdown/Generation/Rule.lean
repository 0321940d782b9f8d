import Pushdown.Generation.Error

/-!
# `Generation.Rule` — functions that a dialect writes in its own way

A rule gets the arguments of a call already written as SQL. A later rule for a function replaces an earlier one.

## Contents

* `Rule` — another name, or any other expression.
* `FunctionRules` — at most one rule for each function.
* `FunctionRules.call?` — a call written by its rule, if it has one.
* `argument` — an argument of a call with a fixed number of them.
-/

namespace Pushdown

/-- How a dialect writes a function. -/
inductive Rule
  /-- Under another name. -/
  | rename (name : String)
  /-- As an expression made from the arguments. -/
  | transform (write : List Sql.Expr → Except GenerationError Sql.Expr)

namespace Rule

/-- A call written by a rule. -/
def apply : Rule → List Sql.Expr → Except GenerationError Sql.Expr
  | .rename name, arguments => .ok (Sql.Expr.apply name arguments)
  | .transform write, arguments => write arguments

/-- The other name of a function that is renamed. -/
def otherName? : Rule → Option String
  | .rename name => some name
  | .transform _ => none

end Rule

/-- Argument `index` of a call that takes `expected` of them. -/
def argument (function : ScalarFunction) (arguments : List Sql.Expr) (index expected : Nat) :
    Except GenerationError Sql.Expr :=
  if arguments.length ≠ expected then .error (.argumentCount function expected arguments.length)
  else match arguments[index]? with
    | some a => .ok a
    | none => .error (.argumentCount function expected arguments.length)

namespace Rule

/-- A call under another name, with its arguments picked by index. -/
def reorder (function : ScalarFunction) (name : String) (order : List Nat) : Rule :=
  .transform fun arguments => do
    let picked ← order.mapM fun i => argument function arguments i order.length
    return Sql.Expr.apply name picked

end Rule

/-- At most one rule for each function. -/
structure FunctionRules where
  rule? : ScalarFunction → Option Rule

namespace FunctionRules

/-- No rules. -/
def empty : FunctionRules := ⟨fun _ => none⟩

/-- The rules with one for `function`, in place of any that it had. -/
def insert (rules : FunctionRules) (function : ScalarFunction) (rule : Rule) : FunctionRules :=
  ⟨fun f => if f = function then some rule else rules.rule? f⟩

/-- The rules of a list; the last for a function counts. -/
def insertMany (rules : FunctionRules) (entries : List (ScalarFunction × Rule)) : FunctionRules :=
  entries.foldl (fun rules entry => rules.insert entry.1 entry.2) rules

/-- The function has a rule. -/
def hasRule (rules : FunctionRules) (function : ScalarFunction) : Bool := (rules.rule? function).isSome

/-- The other name of a function that is renamed. -/
def otherName? (rules : FunctionRules) (function : ScalarFunction) : Option String :=
  (rules.rule? function).bind Rule.otherName?

/-- A call written by the rule of its function; `none` if it has no rule. -/
def call? (rules : FunctionRules) (function : ScalarFunction) (arguments : List Sql.Expr) :
    Except GenerationError (Option Sql.Expr) :=
  match rules.rule? function with
  | some rule => (rule.apply arguments).map some
  | none => .ok none

/-- Number of functions with a rule. -/
def size (rules : FunctionRules) : Nat :=
  (Enumeration.all (α := ScalarFunction)).countP rules.hasRule

/-- What the rules say of themselves. -/
def describe (rules : FunctionRules) : String :=
  "FunctionMapper \x7b rules_count: " ++ intText rules.size ++ " \x7d"

end FunctionRules

end Pushdown
