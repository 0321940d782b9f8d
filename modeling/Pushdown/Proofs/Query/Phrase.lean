import Pushdown.Proofs.Number.Numeral
import Pushdown.Proofs.Postgres.Scalar
import Pushdown.Proofs.Sql.Phrase
import Pushdown.Proofs.Text.Quote

/-!
# `Proofs.Query.Phrase` — the SQL phrase that a query tree stands for

The phrase of an expression is defined on the query tree alone, without the generator: it says which operator
stands between which operands, and which tokens carry a text of the query. Nodes that cannot be written have an
empty row as their phrase.

## Contents

* `CaseFolding.written` — an exposed name as PostgreSQL is to read it.
* `Literal.phrase`, `Column.phrase`, `ScalarForm.phrase` — the phrases of the parts.
* `Node.phrase` — the phrase of an expression.
* `Node.plain` — the texts that are taken as they stand are plain.
-/

namespace Pushdown

open Sql (Token Slot Phrase Arm)

/-- An exposed name as PostgreSQL is to read it. -/
def CaseFolding.written (folding : CaseFolding) (name : String) : String :=
  match folding with
  | .convertToUpper => Text.lower name
  | .preserveCase => name

theorem CaseFolding.quote_eq (folding : CaseFolding) (name : String) :
    folding.quote name = Sql.quotedIdent (folding.written name) := by
  cases folding <;> rfl

namespace CanonicalType

/-- A number between parentheses. -/
def sizeTokens (n : UInt32) : List Token := [.mark '(', .number (wordText n), .mark ')']

/-- The tokens of a type inside a cast. -/
def tokens : CanonicalType → List Token
  | .boolean => [.word "BOOLEAN"]
  | .exactNumeric p s =>
    [.word "DECIMAL", .mark '(', .number (wordText p), .mark ',', .number (wordText s), .mark ')']
  | .double => [.word "DOUBLE", .word "PRECISION"]
  | .date => [.word "DATE"]
  | .timestamp false => [.word "TIMESTAMP"]
  | .timestamp true => [.word "TIMESTAMP", .word "WITH", .word "TIME", .word "ZONE"]
  | .character n _ => .word "VARCHAR" :: sizeTokens n
  | .maxCharacter _ => .word "VARCHAR" :: sizeTokens maxLength

end CanonicalType

/-! ## Leaves -/

/-- The phrase of a number that may have a sign. -/
def numberPhrase (cs : List Char) : Phrase Slot :=
  let number := Phrase.atom (.fixed (.number (String.ofList (unsigned cs))))
  match cs with
  | '-' :: _ => .sign true number
  | '+' :: _ => .sign false number
  | _ => number

/-- The phrase of a constant. -/
def Literal.phrase : Literal → Phrase Slot
  | .null => .atom (.fixed (.word "NULL"))
  | .bool value => .atom (.fixed (.word (if value then "true" else "false")))
  | .date text => .typed "DATE" (.fixed (.string text))
  | .timestamp text | .timestampUtc text => .typed "TIMESTAMP" (.fixed (.string text))
  | .double value =>
    if value.isFinite then numberPhrase (doubleStyle.chars value)
    else .cast (.atom (.fixed (.string (nonFiniteName value)))) [.word "DOUBLE", .word "PRECISION"]
  | .exact text => numberPhrase text.toList
  | .string text => .atom (.payload (.string text))

/-- The phrase of a column. Its name comes from the query, the name of its table does not count as such. -/
def Column.phrase (folding : CaseFolding) (c : Column) : Phrase Slot :=
  let name := Slot.payload (.name (folding.written c.name))
  match c.qualifier with
  | some table => .path (.fixed (.name (folding.written table))) name
  | none => .atom name

/-- The phrase of a call of a scalar function. -/
def ScalarForm.phrase (function : ScalarFunction) (arguments : List (Phrase Slot)) :
    ScalarForm → Phrase Slot
  | .renamed name => .call name false arguments
  | .interval unit =>
    match arguments with
    | [date, amount] => .binary .plus date (.callNamed "make_interval" unit amount)
    | _ => .row []
  | .datePart =>
    match arguments with
    | [date] => .call "DATE_PART" false [.atom (.fixed (.string (Enumeration.name function))), date]
    | _ => .row []
  | .epoch =>
    match arguments with
    | [date] => .extract "EPOCH" date
    | _ => .row []
  | .bare =>
    match arguments with
    | [] => .atom (.fixed (.word (Enumeration.name function)))
    | _ => .call (Enumeration.name function) false arguments
  | .between operator =>
    match arguments with
    | [left, right] => .group (.binary operator left right)
    | _ => .row []
  | .sign =>
    match arguments with
    | [operand] => .sign true (.group operand)
    | _ => .row []
  | .call => .call (Enumeration.name function) false arguments

/-- The phrase of a call of an aggregate function. -/
def aggregatePhrase (function : AggregateFunction) (distinct : Bool) (arguments : List (Phrase Slot)) :
    Phrase Slot :=
  let name := Enumeration.name function
  if arguments.isEmpty then .callStar name
  else if distinct && 1 < arguments.length then .call name true [.row arguments]
  else .call name distinct arguments

/-- The phrase of operands joined by a connective. -/
def connectivePhrase (operator : Sql.Operator) : List (Phrase Slot) → Phrase Slot
  | [] => .row []
  | first :: rest => .group (rest.foldl (fun left right => .binary operator left right) first)

/-- The phrase of the escape of a LIKE. -/
def escapePhrase : Option Node → Option (Phrase Slot)
  | some (.literal (.string text)) => some (.atom (.payload (.string text)))
  | _ => none

/-- The phrase of the separator of a string aggregation. -/
def separatorPhrase : Option String → Phrase Slot
  | some text => .atom (.payload (.string text))
  | none => .atom (.fixed (.string ","))

/-! ## Expressions -/

section Expressions

variable (folding : CaseFolding)

mutual

/-- The phrase of an expression. -/
def Node.phrase : Node → Phrase Slot
  | .column c => c.phrase folding
  | .literal l => l.phrase
  | .predicate p => p.phrase
  | .scalar function arguments => function.form.phrase function (phrases arguments)
  | .extract unit argument => .extract (Text.asciiUpper unit) argument.phrase
  | .case basis branches otherwise =>
    .case (optionPhrase basis) (armPhrases branches) (optionPhrase otherwise)
  | .cast argument type => .cast argument.phrase type.tokens
  | .aggregate function arguments distinct => aggregatePhrase function distinct (phrases arguments)
  | .groupConcat argument distinct _ separator =>
    .call "STRING_AGG" distinct [argument.phrase, separatorPhrase separator]
  | .select _ _ _ _ _ _ _ | .selectList _ | .table _ | .join _ _ _ _ | .orderBy _ | .groupBy _
  | .limit _ => .row []

/-- The phrase of a condition. -/
def Predicate.phrase : Predicate → Phrase Slot
  | .and operands => connectivePhrase .and (phrases operands)
  | .or operands => connectivePhrase .or (phrases operands)
  | .not operand => .not (.group operand.phrase)
  | .equal left right => .binary .equal left.phrase right.phrase
  | .notEqual left right => .binary .notEqual left.phrase right.phrase
  | .less left right => .binary .less left.phrase right.phrase
  | .lessEqual left right => .binary .lessEqual left.phrase right.phrase
  | .like value pattern escape => .like value.phrase pattern.phrase (escapePhrase escape)
  | .regexp value pattern => .binary .matches value.phrase pattern.phrase
  | .between value low high => .between value.phrase low.phrase high.phrase
  | .inList value candidates => .inList value.phrase (phrases candidates)
  | .isNull operand => .isNull false operand.phrase
  | .isNotNull operand => .isNull true operand.phrase

/-- The phrase of each of several expressions. -/
def phrases : List Node → List (Phrase Slot)
  | [] => []
  | n :: ns => n.phrase :: phrases ns

/-- The phrase of an expression, if there is one. -/
def optionPhrase : Option Node → Option (Phrase Slot)
  | none => none
  | some n => some n.phrase

/-- The phrases of the branches of a CASE. -/
def armPhrases : List Branch → List (Arm Slot)
  | [] => []
  | .mk condition result :: rest => .mk condition.phrase result.phrase :: armPhrases rest

end

theorem length_phrases (ns : List Node) : (phrases folding ns).length = ns.length := by
  induction ns with
  | nil => rfl
  | cons n ns ih => simp [phrases, ih]

end Expressions

/-! ## Plain texts -/

/-- A constant whose text is not escaped is plain if it is a number, or a date none of whose quotes looks escaped. -/
def Literal.plain : Literal → Bool
  | .exact text => isSignedNumeral text.toList
  | .date text | .timestamp text | .timestampUtc text => text.toList.IsChain (Text.Unescaped '\'')
  | .null | .bool _ | .double _ | .string _ => true

/-- The unit has letters and underscores only. -/
def plainUnit (unit : String) : Bool := unit.toList.all fun c => c.isAlpha || c = '_'

mutual

/-- All texts that are written as they stand are plain. An ordering that is not written does not count. -/
def Node.plain : Node → Bool
  | .column _ | .table _ | .limit _ => true
  | .literal l => l.plain
  | .predicate p => p.plain
  | .scalar _ arguments => allPlain arguments
  | .extract unit argument => plainUnit unit && argument.plain
  | .case basis branches otherwise =>
    optionPlain basis && branchesPlain branches && optionPlain otherwise
  | .cast argument _ => argument.plain
  | .aggregate _ arguments _ => allPlain arguments
  | .groupConcat argument _ _ _ => argument.plain
  | .select list source filter keys having ordering _ =>
    list.plain && source.plain && optionPlain filter && groupingPlain keys && optionPlain having &&
      orderingPlain ordering
  | .selectList list => list.plain
  | .join _ left right condition => left.plain && right.plain && condition.plain
  | .orderBy items => keysPlain items
  | .groupBy keys => allPlain keys

def SelectList.plain : SelectList → Bool
  | .anyValue | .wildcard => true
  | .expressions items => allPlain items

def Predicate.plain : Predicate → Bool
  | .and operands | .or operands => allPlain operands
  | .not operand | .isNull operand | .isNotNull operand => operand.plain
  | .equal left right | .notEqual left right | .less left right | .lessEqual left right =>
    left.plain && right.plain
  | .like value pattern _ => value.plain && pattern.plain
  | .regexp value pattern => value.plain && pattern.plain
  | .between value low high => value.plain && low.plain && high.plain
  | .inList value candidates => value.plain && allPlain candidates

def allPlain : List Node → Bool
  | [] => true
  | n :: ns => n.plain && allPlain ns

def optionPlain : Option Node → Bool
  | none => true
  | some n => n.plain

def branchesPlain : List Branch → Bool
  | [] => true
  | .mk condition result :: rest => condition.plain && result.plain && branchesPlain rest

def keysPlain : List SortItem → Bool
  | [] => true
  | .mk key _ _ :: rest => key.plain && keysPlain rest

def groupingPlain : Option (List Node) → Bool
  | none => true
  | some keys => allPlain keys

def orderingPlain : Option (List SortItem) → Bool
  | none => true
  | some items => keysPlain items

end

end Pushdown
