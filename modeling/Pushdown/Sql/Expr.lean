import Pushdown.Query.Node
import Pushdown.Text.Quote

/-!
# `Sql.Expr` — the SQL text as a tree, before it is printed

Quoted names and string constants hold their text the way it stands between the quotes, with quotes inside
already written twice where the builder does so.

## Contents

* `Sql.Ident` — a name, plain or between double quotes.
* `Sql.Operator` — binary operators.
* `Sql.Expr`, `Sql.SortKey` — expressions.
* `Sql.Item`, `Sql.Factor`, `Sql.Source`, `Sql.Query` — statements and their clauses.
-/

namespace Pushdown.Sql

/-- A name. -/
structure Ident where
  text : String
  /-- It stands between double quotes. -/
  quoted : Bool
deriving DecidableEq, Repr

/-- A name between double quotes, quotes inside written twice. -/
def quotedIdent (name : String) : Ident := ⟨Text.doubled '"' name, true⟩

/-- A binary operator. -/
inductive Operator
  | and
  | or
  | equal
  | notEqual
  | less
  | lessEqual
  | plus
  | minus
  | times
  | divide
  | matches
deriving DecidableEq, Repr

namespace Operator

/-- The operator as it is written. -/
def text : Operator → String
  | .and => "AND"
  | .or => "OR"
  | .equal => "="
  | .notEqual => "<>"
  | .less => "<"
  | .lessEqual => "<="
  | .plus => "+"
  | .minus => "-"
  | .times => "*"
  | .divide => "/"
  | .matches => "~"

end Operator

/-- Where a sort key puts missing values. -/
inductive NullsOrder
  | first
  | last
deriving DecidableEq, Repr

mutual

/-- An expression. -/
inductive Expr
  /-- A name, with the names that qualify it in front. -/
  | path (parts : List Ident)
  /-- SQL text that is taken as it stands. -/
  | verbatim (sql : String)
  | null
  | boolean (value : Bool)
  | number (text : String)
  /-- A standard string constant. -/
  | string (body : String)
  /-- A string constant with backslash escapes. -/
  | escapeString (body : String)
  /-- A string constant behind the name of its type. -/
  | typed (typeName : String) (body : String)
  | binary (operator : Operator) (left right : Expr)
  | negate (operand : Expr)
  | not (operand : Expr)
  | nested (inner : Expr)
  | like (value pattern : Expr) (escape : Option String)
  | between (value low high : Expr)
  | inList (value : Expr) (candidates : List Expr)
  | isNull (operand : Expr)
  | isNotNull (operand : Expr)
  | cast (operand : Expr) (typeName : String)
  | extract (unit : String) (operand : Expr)
  | case (basis : Option Expr) (branches : List When) (otherwise : Option Expr)
  | tuple (items : List Expr)
  /-- A function that is written without parentheses. -/
  | bare (name : String)
  | call (name : String) (distinct : Bool) (arguments : List Expr)
  /-- A call on whole rows. -/
  | callStar (name : String)
  /-- A call with one argument passed by name. -/
  | callNamed (name parameter : String) (argument : Expr)
  /-- A part of a date, its unit passed as a string constant. -/
  | datePart (unit : String) (argument : Expr)
  | groupConcat (argument : Expr) (distinct : Bool) (ordering : List SortKey) (separator : Option String)

/-- One branch of a CASE. -/
inductive When
  | mk (condition result : Expr)

/-- One key of an ordering. -/
inductive SortKey
  | mk (key : Expr) (descending : Bool) (nulls : Option NullsOrder)

end

namespace Expr

/-- A call with positional arguments. -/
def apply (name : String) (arguments : List Expr) : Expr := .call name false arguments

end Expr

/-- An item of a select list. -/
inductive Item
  | expr (expr : Expr)
  | aliased (expr : Expr) (name : Ident)
  | star

mutual

/-- An operand of a join. -/
inductive Factor
  | table (name : List Ident) (aliasName : Option Ident)
  | nested (source : Source)

/-- A FROM clause: an operand and the joins behind it, which associate to the left. -/
inductive Source
  | mk (head : Factor) (joins : List Join)

/-- A join behind an operand. -/
inductive Join
  | mk (kind : JoinKind) (right : Factor) (condition : Expr)

end

namespace Source

/-- The FROM clause with one more join behind it. -/
def push : Source → Join → Source
  | .mk head joins, j => .mk head (joins ++ [j])

end Source

/-- A statement. An empty list stands for an absent clause. -/
structure Query where
  items : List Item
  source : Source
  filter : Option Expr := none
  groupBy : List Expr := []
  having : Option Expr := none
  orderBy : List SortKey := []
  limit : Option Limit := none

end Pushdown.Sql
