import Pushdown.Sql.Expr

/-!
# `Sql.Lexeme` — SQL trees as lexemes, and lexemes as text

Printing goes in two steps: a tree becomes a list of lexemes, with every blank in its place, and the text is
their concatenation. No parentheses are added on the way: what needs them is a `nested` expression.

## Contents

* `Lexeme`, `Lexeme.chars` — the pieces of the text.
* `Expr.lexemes`, `Source.lexemes`, `Query.lexemes` — trees as lexemes.
* `render` — the text.
-/

namespace Pushdown.Sql

/-- A piece of SQL text. -/
inductive Lexeme
  /-- One space. -/
  | blank
  /-- A keyword, a name without quotes, a number, or text taken as it stands. -/
  | word (text : String)
  /-- An operator, a bracket, a comma or a dot. -/
  | symbol (text : String)
  /-- A name between double quotes. -/
  | name (body : String)
  /-- A string constant. -/
  | string (body : String)
  /-- A string constant whose body is printed as it stands. -/
  | plainString (body : String)
  /-- A string constant with backslash escapes. -/
  | escapeString (body : String)
deriving DecidableEq, Repr

namespace Lexeme

/-- The characters of a lexeme. -/
def chars : Lexeme → List Char
  | .blank => [' ']
  | .word text => text.toList
  | .symbol text => text.toList
  | .name body => Text.quoted '"' body
  | .string body => Text.quoted '\'' body
  | .plainString body => '\'' :: body.toList ++ ['\'']
  | .escapeString body => 'E' :: '\'' :: body.toList ++ ['\'']

/-- The characters of several lexemes. -/
def allChars (ls : List Lexeme) : List Char := ls.flatMap chars

end Lexeme

/-- Lexemes as text. -/
def render (ls : List Lexeme) : String := String.ofList (Lexeme.allChars ls)

/-- A word between blanks. -/
def spaced (text : String) : List Lexeme := [.blank, .word text, .blank]

/-- Parts with a separator between them. -/
def separated (separator : List Lexeme) : List (List Lexeme) → List Lexeme
  | [] => []
  | [part] => part
  | part :: parts => part ++ separator ++ separated separator parts

/-- Words with blanks between them. -/
def words (texts : List String) : List Lexeme := separated [.blank] (texts.map fun t => [.word t])

/-- Lexemes behind a blank. -/
def following (ls : List Lexeme) : List Lexeme := .blank :: ls

/-- A clause behind its keywords. -/
def clause (keywords : List String) (ls : List Lexeme) : List Lexeme :=
  words keywords ++ following ls

/-- A comma and a blank. -/
def comma : List Lexeme := [.symbol ",", .blank]

/-- Lexemes between parentheses. -/
def parenthesised (ls : List Lexeme) : List Lexeme := .symbol "(" :: ls ++ [.symbol ")"]

/-- What a call begins with to drop duplicates. -/
def distinctMark (distinct : Bool) : List Lexeme :=
  if distinct then [.word "DISTINCT", .blank] else []

namespace Ident

/-- The lexeme of a name. -/
def lexeme (i : Ident) : Lexeme := if i.quoted then .name i.text else .word i.text

end Ident

/-- A name behind the names that qualify it. -/
def pathLexemes (parts : List Ident) : List Lexeme :=
  separated [.symbol "."] (parts.map fun p => [p.lexeme])

namespace Operator

/-- The lexeme of an operator. -/
def lexeme (o : Operator) : Lexeme :=
  match o with
  | .and | .or => .word o.text
  | _ => .symbol o.text

end Operator

/-- Where missing values go, if it is said. -/
def nullsLexemes : Option NullsOrder → List Lexeme
  | none => []
  | some .first => following (words ["NULLS", "FIRST"])
  | some .last => following (words ["NULLS", "LAST"])

mutual

/-- The lexemes of an expression. -/
def Expr.lexemes : Expr → List Lexeme
  | .path parts => pathLexemes parts
  | .verbatim sql => [.word sql]
  | .null => [.word "NULL"]
  | .boolean value => [.word (if value then "true" else "false")]
  | .number text => [.word text]
  | .string body => [.string body]
  | .escapeString body => [.escapeString body]
  | .typed typeName body => [.word typeName, .blank, .string body]
  | .binary operator left right =>
    left.lexemes ++ [.blank, operator.lexeme, .blank] ++ right.lexemes
  | .negate operand => .symbol "-" :: operand.lexemes
  | .not operand => .word "NOT" :: .blank :: operand.lexemes
  | .nested inner => parenthesised inner.lexemes
  | .like value pattern escape =>
    value.lexemes ++ spaced "LIKE" ++ pattern.lexemes ++
      match escape with
      | some body => spaced "ESCAPE" ++ [.plainString body]
      | none => []
  | .between value low high =>
    value.lexemes ++ spaced "BETWEEN" ++ low.lexemes ++ spaced "AND" ++ high.lexemes
  | .inList value candidates =>
    value.lexemes ++ spaced "IN" ++ parenthesised (separated comma (exprsLexemes candidates))
  | .isNull operand => operand.lexemes ++ spaced "IS" ++ [.word "NULL"]
  | .isNotNull operand => operand.lexemes ++ spaced "IS" ++ words ["NOT", "NULL"]
  | .cast operand typeName =>
    .word "CAST" :: parenthesised (operand.lexemes ++ spaced "AS" ++ [.word typeName])
  | .extract unit operand =>
    .word "EXTRACT" :: parenthesised (.word unit :: spaced "FROM" ++ operand.lexemes)
  | .case basis branches otherwise =>
    .word "CASE" :: basisLexemes basis ++ branchesLexemes branches ++ otherwiseLexemes otherwise ++
      [.blank, .word "END"]
  | .tuple items => parenthesised (separated comma (exprsLexemes items))
  | .bare name => [.word name]
  | .call name distinct arguments =>
    .word name :: parenthesised (distinctMark distinct ++ separated comma (exprsLexemes arguments))
  | .callStar name => .word name :: parenthesised [.symbol "*"]
  | .callNamed name parameter argument =>
    .word name ::
      parenthesised (.word parameter :: .blank :: .symbol "=>" :: .blank :: argument.lexemes)
  | .datePart unit argument =>
    .word "DATE_PART" :: parenthesised (.string unit :: .symbol "," :: argument.lexemes)
  | .groupConcat argument distinct ordering separator =>
    .word "GROUP_CONCAT" ::
      parenthesised
        (distinctMark distinct ++ argument.lexemes ++
          (if ordering.isEmpty then []
            else following (clause ["ORDER", "BY"] (separated comma (sortKeysLexemes ordering)))) ++
          match separator with
          | some body => following (clause ["SEPARATOR"] [.string body])
          | none => [])

/-- The lexemes of each of several expressions. -/
def exprsLexemes : List Expr → List (List Lexeme)
  | [] => []
  | e :: es => e.lexemes :: exprsLexemes es

/-- What a CASE compares, behind a blank. -/
def basisLexemes : Option Expr → List Lexeme
  | none => []
  | some e => .blank :: e.lexemes

/-- The branches of a CASE, each behind a blank. -/
def branchesLexemes : List When → List Lexeme
  | [] => []
  | .mk condition result :: rest =>
    spaced "WHEN" ++ condition.lexemes ++ spaced "THEN" ++ result.lexemes ++ branchesLexemes rest

/-- The last branch of a CASE, behind a blank. -/
def otherwiseLexemes : Option Expr → List Lexeme
  | none => []
  | some e => spaced "ELSE" ++ e.lexemes

/-- The lexemes of each of several sort keys. -/
def sortKeysLexemes : List SortKey → List (List Lexeme)
  | [] => []
  | .mk key descending nulls :: rest =>
    (key.lexemes ++ (if descending then [.blank, .word "DESC"] else []) ++ nullsLexemes nulls) ::
      sortKeysLexemes rest

end

namespace Item

/-- The lexemes of an item of a select list. -/
def lexemes : Item → List Lexeme
  | .expr e => e.lexemes
  | .aliased e name => e.lexemes ++ spaced "AS" ++ [name.lexeme]
  | .star => [.symbol "*"]

end Item

/-- The lexemes of a select list. -/
def itemsLexemes (items : List Item) : List Lexeme := separated comma (items.map Item.lexemes)

/-- The words of a join. -/
def joinWords : JoinKind → List Lexeme
  | .inner => words ["INNER", "JOIN"]
  | .leftOuter => words ["LEFT", "OUTER", "JOIN"]
  | .rightOuter => words ["RIGHT", "OUTER", "JOIN"]
  | .fullOuter => words ["FULL", "JOIN"]

mutual

/-- The lexemes of an operand of a join. -/
def Factor.lexemes : Factor → List Lexeme
  | .table name aliasName =>
    pathLexemes name ++
      match aliasName with
      | some a => spaced "AS" ++ [a.lexeme]
      | none => []
  | .nested source => parenthesised source.lexemes

/-- The lexemes of a FROM clause, without its keyword. -/
def Source.lexemes : Source → List Lexeme
  | .mk head joins => head.lexemes ++ joinsLexemes joins

/-- The lexemes of joins, each behind a blank. -/
def joinsLexemes : List Join → List Lexeme
  | [] => []
  | .mk kind right condition :: rest =>
    .blank :: joinWords kind ++ .blank :: right.lexemes ++ spaced "ON" ++ condition.lexemes ++
      joinsLexemes rest

end

/-- The lexemes of a GROUP BY clause. -/
def groupByLexemes (keys : List Expr) : List Lexeme :=
  clause ["GROUP", "BY"] (separated comma (exprsLexemes keys))

/-- The lexemes of an ORDER BY clause. -/
def orderByLexemes (keys : List SortKey) : List Lexeme :=
  clause ["ORDER", "BY"] (separated comma (sortKeysLexemes keys))

/-- An unsigned number of 64 bits as a lexeme. -/
def countLexeme (n : UInt64) : Lexeme := .word (intText n.toNat)

/-- The lexemes of a LIMIT clause. -/
def limitLexemes (l : Limit) : List Lexeme :=
  clause ["LIMIT"]
    (countLexeme l.count ::
      match l.offset with
      | some n => .blank :: clause ["OFFSET"] [countLexeme n]
      | none => [])

namespace Query

/-- The lexemes of a statement. -/
def lexemes (q : Query) : List Lexeme :=
  clause ["SELECT"] (itemsLexemes q.items) ++ following (clause ["FROM"] q.source.lexemes) ++
    (match q.filter with
      | some e => following (clause ["WHERE"] e.lexemes)
      | none => []) ++
    (if q.groupBy.isEmpty then [] else following (groupByLexemes q.groupBy)) ++
    (match q.having with
      | some e => following (clause ["HAVING"] e.lexemes)
      | none => []) ++
    (if q.orderBy.isEmpty then [] else following (orderByLexemes q.orderBy)) ++
    (match q.limit with
      | some l => following (limitLexemes l)
      | none => [])

end Query

end Pushdown.Sql
