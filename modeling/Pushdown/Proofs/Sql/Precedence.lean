import Pushdown.Proofs.Sql.Phrase

/-!
# `Proofs.Sql.Precedence` — which phrases PostgreSQL's precedence puts together

From loose to tight, the operators are OR, AND, NOT, IS, the comparisons, then BETWEEN, IN and LIKE, then `~`, `+`
and `-`, `*` and `/`, and the sign. Operators of one level group to the left; comparisons, LIKE and BETWEEN do not
chain at all. The lower bound of a BETWEEN is read by a rule of its own, to which AND, NOT, LIKE and their like are
unknown.

What an operand may be depends on its two ends. Towards the left it must not hold an operator that is looser than
the one in front of it (`floor`); towards the right it must not hold one that would take what follows (`limit`).

## Contents

* `Link`, `Token.link?` — what may stand behind an operand.
* `Lead`, `lead` — what a word at the beginning of an expression leads to.
* `Phrase.ceiling`, `Phrase.floor`, `Phrase.limit`, `Phrase.takesEscape`, `Phrase.isLow` — the ends of a phrase.
* `Phrase.wellGrouped` — every operand stands where precedence puts it.
-/

namespace Pushdown.Sql

/-! ## Levels -/

/-- How tightly NOT binds. -/
def notLevel : Nat := 3

/-- How tightly LIKE, BETWEEN and IN bind. -/
def likeLevel : Nat := 6

/-- How tightly a sign binds. Nothing binds tighter. -/
def signLevel : Nat := 10

/-- How tightly an operator binds. -/
def Operator.level : Operator → Nat
  | .or => 1
  | .and => 2
  | .equal | .notEqual | .less | .lessEqual => 5
  | .matches => 7
  | .plus | .minus => 8
  | .times | .divide => 9

namespace Operator

/-- Comparisons do not chain. -/
def chains : Operator → Bool
  | .equal | .notEqual | .less | .lessEqual => false
  | _ => true

/-- The operator is one of the two that are words. -/
def isWord : Operator → Bool
  | .and | .or => true
  | _ => false

/-- The operator that a token is, if it is one. -/
def ofToken? (t : Token) : Option Operator :=
  [and, or, equal, notEqual, less, lessEqual, plus, minus, times, divide, .matches].find? (·.token = t)

theorem ofToken?_token (o : Operator) : ofToken? o.token = some o := by
  cases o <;> decide

end Operator

/-- What may stand behind an operand and take it. -/
inductive Link
  | binary (operator : Operator)
  | like
  | between
  | inList
  | isNull
deriving DecidableEq

/-- How tightly it takes the operand. -/
def Link.level : Link → Nat
  | .binary o => o.level
  | .like | .between | .inList => likeLevel
  | .isNull => 4

namespace Token

/-- What a token behind an operand is the beginning of. Inside the lower bound of a BETWEEN there are only operators
that are no words. -/
def link? (low : Bool) (t : Token) : Option Link :=
  match Operator.ofToken? t with
  | some o => if low && o.isWord then none else some (.binary o)
  | none =>
    if low then none
    else if t = .word "LIKE" then some .like
    else if t = .word "BETWEEN" then some .between
    else if t = .word "IN" then some .inList
    else if t = .word "IS" then some .isNull
    else none

/-- Tokens that end an expression. -/
def delimiters : List Token :=
  [.mark ')', .mark ',', .word "WHEN", .word "THEN", .word "ELSE", .word "END", .word "AS"]

/-- The level down to which operators in front of the token are closed by it, if it may follow an expression. -/
def follow? (t : Token) : Option Nat :=
  match t.link? false with
  | some link => some link.level
  | none => if t = .word "ESCAPE" ∨ t ∈ delimiters then some 0 else none

end Token

/-! ## Words -/

/-- What a word at the beginning of an expression leads to. -/
inductive Lead
  | not
  | case
  | cast
  | extract
  /-- No expression begins with it. -/
  | reserved
  /-- It is a value, a type or the name of a function. -/
  | plain
deriving DecidableEq

/-- Words that have a place of their own inside expressions, letter by letter: this is how other words are told from
them without being taken apart. -/
def reservedLetters : List (List Char) :=
  [['N', 'O', 'T'], ['C', 'A', 'S', 'E'], ['C', 'A', 'S', 'T'], ['E', 'X', 'T', 'R', 'A', 'C', 'T'],
    ['A', 'N', 'D'], ['O', 'R'], ['I', 'S'], ['L', 'I', 'K', 'E'], ['B', 'E', 'T', 'W', 'E', 'E', 'N'],
    ['I', 'N'], ['E', 'S', 'C', 'A', 'P', 'E'], ['W', 'H', 'E', 'N'], ['T', 'H', 'E', 'N'],
    ['E', 'L', 'S', 'E'], ['E', 'N', 'D'], ['A', 'S'], ['F', 'R', 'O', 'M'],
    ['D', 'I', 'S', 'T', 'I', 'N', 'C', 'T']]

/-- The reserved words. -/
def reservedWords : List String := reservedLetters.map String.ofList

/-- What a word leads to. A reserved word may be written in any case, but it leads to something only in capitals. -/
def lead (text : String) : Lead :=
  if reservedWords.contains (Text.asciiUpper text) then
    if text = "NOT" then .not
    else if text = "CASE" then .case
    else if text = "CAST" then .cast
    else if text = "EXTRACT" then .extract
    else .reserved
  else .plain

/-- A word that is given letter by letter need not be taken apart. -/
theorem lead_ofList {cs : List Char} (h : cs.map Char.toUpper ∉ reservedLetters) :
    lead (String.ofList cs) = .plain := by
  have hother : reservedWords.contains (Text.asciiUpper (String.ofList cs)) = false := by
    rw [Text.asciiUpper, String.toList_ofList, reservedWords]
    simpa [String.ofList_inj] using h
  rw [lead, hother]
  rfl

/-- The sign that an operator stands for in front of an operand. -/
def signOf? (text : String) : Option Bool :=
  if text = "-" then some true else if text = "+" then some false else none

namespace Token

/-- The token is a value by itself. -/
def isValue : Token → Bool
  | .number _ | .string _ | .name _ => true
  | .word text => lead text = .plain
  | .operator _ | .mark _ | .comment => false

/-- The token is a name between quotes. -/
def isName : Token → Bool
  | .name _ => true
  | _ => false

/-- The token is a string constant. -/
def isString : Token → Bool
  | .string _ => true
  | _ => false

/-- The token is a word. -/
def isBare : Token → Bool
  | .word _ => true
  | _ => false

/-- An expression may begin with the token. -/
def starts : Token → Bool
  | .number _ | .string _ | .name _ => true
  | .word text => lead text ≠ .reserved
  | .operator text => (signOf? text).isSome
  | .mark c => c = '('
  | .comment => false

end Token

/-- The tokens are a type: words, and behind them one or two numbers between parentheses or none. -/
def isType (type : List Token) : Bool :=
  match type.dropWhile Token.isBare with
  | [] => true
  | [.mark '(', .number _, .mark ')'] => true
  | [.mark '(', .number _, .mark ',', .number _, .mark ')'] => true
  | _ => false

/-! ## The ends of a phrase -/

section Ends

variable {τ : Type}

namespace Phrase

/-- The tightest operator that may stand behind the phrase and take all of it, by the last operator of the phrase
alone. -/
def ceiling : Phrase τ → Nat
  | .not _ => notLevel - 1
  | .sign _ _ => signLevel - 1
  | .binary o _ _ => if o.chains then o.level else o.level - 1
  | .like _ _ _ | .between _ _ _ => likeLevel - 1
  | _ => signLevel

/-- The loosest operator that is open towards the left. -/
def floor : Phrase τ → Nat
  | .binary o left _ => min o.level left.floor
  | .like value _ _ | .between value _ _ | .inList value _ => min likeLevel value.floor
  | .isNull _ operand => min Link.isNull.level operand.floor
  | _ => signLevel

mutual

/-- The tightest operator that may stand behind the phrase and take all of it. -/
def limit : Phrase τ → Nat
  | .not operand => min (notLevel - 1) operand.limit
  | .sign _ operand => min (signLevel - 1) operand.limit
  | .binary o _ right => min (if o.chains then o.level else o.level - 1) right.limit
  | .like _ pattern escape => min (likeLevel - 1) (optionLimit pattern.limit escape)
  | .between _ _ high => min (likeLevel - 1) high.limit
  | _ => signLevel

/-- The limit of what stands last, `absent` if the phrase does not. -/
def optionLimit (absent : Nat) : Option (Phrase τ) → Nat
  | none => absent
  | some p => p.limit

end

mutual

/-- An ESCAPE behind the phrase would go to a LIKE inside it. -/
def takesEscape : Phrase τ → Bool
  | .not operand | .sign _ operand => operand.takesEscape
  | .binary _ _ right => right.takesEscape
  | .like _ _ escape => optionTakesEscape escape
  | .between _ _ high => high.takesEscape
  | _ => false

/-- A LIKE without an escape takes the one that follows. -/
def optionTakesEscape : Option (Phrase τ) → Bool
  | none => true
  | some p => p.takesEscape

end

/-- The phrase may be the lower bound of a BETWEEN. -/
def isLow : Phrase τ → Bool
  | .not _ | .like _ _ _ | .between _ _ _ | .inList _ _ | .isNull _ _ => false
  | .sign _ operand => operand.isLow
  | .binary o left right => !o.isWord && left.isLow && right.isLow
  | _ => true

theorem limit_le_ceiling (p : Phrase τ) : p.limit ≤ p.ceiling := by
  cases p with
  | not _ | sign _ _ | binary _ _ _ | like _ _ _ | between _ _ _ => exact Nat.min_le_left _ _
  | _ => exact Nat.le_refl _

/-- Only a phrase that ends in something as loose as LIKE takes an ESCAPE. -/
theorem limit_lt_of_takesEscape : ∀ {p : Phrase τ}, p.takesEscape → p.limit < likeLevel
  | .not operand, h | .sign _ operand, h | .binary _ _ operand, h | .between _ _ operand, h =>
    Nat.lt_of_le_of_lt (Nat.min_le_right _ _) (limit_lt_of_takesEscape (p := operand) h)
  | .like _ _ _, _ => Nat.lt_of_le_of_lt (Nat.min_le_left _ _) (by decide)

/-- A lower bound does not take the AND behind it. -/
theorem le_limit_of_isLow : ∀ {p : Phrase τ}, p.isLow → Operator.and.level ≤ p.limit
  | .sign _ operand, h => by
    have := le_limit_of_isLow (p := operand) h
    simp only [limit, signLevel]
    simp only [Operator.level] at this ⊢
    omega
  | .binary o left right, h => by
    simp only [isLow, Bool.and_eq_true] at h
    have := le_limit_of_isLow (p := right) h.2
    have ho : Operator.and.level ≤ if o.chains then o.level else o.level - 1 := by
      revert h
      cases o <;> simp [Operator.isWord, Operator.chains, Operator.level]
    simp only [limit]
    omega
  | .atom _, _ | .path _ _, _ | .typed _ _, _ | .group _, _ | .row _, _ | .call _ _ _, _ | .callStar _, _
  | .callNamed _ _ _, _ | .cast _ _, _ | .extract _ _, _ | .case _ _ _, _ => by
    simp [limit, signLevel, Operator.level]

end Phrase

end Ends

/-! ## Phrases that are grouped by precedence -/

mutual

/-- Every operand of the phrase is one that precedence gives to its operator. -/
def Phrase.wellGrouped : Phrase Token → Bool
  | .atom t => t.isValue
  | .path qualifier name => qualifier.isName && name.isName
  | .typed type text => lead type = .plain && text.isString
  | .group inner => inner.wellGrouped
  | .row items => 2 ≤ items.length && wellGroupedAll items
  | .call name distinct arguments =>
    lead name = .plain && !(distinct && arguments.isEmpty) && wellGroupedAll arguments
  | .callStar name => lead name = .plain
  | .callNamed name parameter argument =>
    lead name = .plain && lead parameter = .plain && argument.wellGrouped
  | .cast operand type => operand.wellGrouped && isType type
  | .extract unit operand => unit ≠ "" && operand.wellGrouped
  | .case basis arms otherwise =>
    !arms.isEmpty && wellGroupedOption basis && wellGroupedArms arms && wellGroupedOption otherwise
  | .sign _ operand => signLevel ≤ operand.floor && operand.wellGrouped
  | .not operand => notLevel ≤ operand.floor && operand.wellGrouped
  | .binary o left right =>
    o.level ≤ left.limit && o.level < right.floor && left.wellGrouped && right.wellGrouped
  | .like value pattern escape =>
    likeLevel ≤ value.limit && likeLevel < pattern.floor &&
      escape.all (fun e => !pattern.takesEscape && likeLevel < e.floor) &&
      value.wellGrouped && pattern.wellGrouped && wellGroupedOption escape
  | .between value low high =>
    likeLevel ≤ value.limit && low.isLow && likeLevel < high.floor &&
      value.wellGrouped && low.wellGrouped && high.wellGrouped
  | .inList value candidates =>
    likeLevel ≤ value.limit && !candidates.isEmpty && value.wellGrouped && wellGroupedAll candidates
  | .isNull _ operand => Link.isNull.level ≤ operand.limit && operand.wellGrouped

def wellGroupedAll : List (Phrase Token) → Bool
  | [] => true
  | p :: ps => p.wellGrouped && wellGroupedAll ps

def wellGroupedOption : Option (Phrase Token) → Bool
  | none => true
  | some p => p.wellGrouped

def wellGroupedArms : List (Arm Token) → Bool
  | [] => true
  | .mk condition result :: arms =>
    condition.wellGrouped && result.wellGrouped && wellGroupedArms arms

end

end Pushdown.Sql
