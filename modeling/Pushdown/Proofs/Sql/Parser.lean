import Pushdown.Proofs.Sql.Precedence

/-!
# `Proofs.Sql.Parser` — reading expressions by precedence

The reader takes an operand and then, as long as what follows is tight enough, lets it take that operand. A call
`name(…)` is one operand, and so is everything between parentheses or between CASE and END. What is not an
expression of the kinds of `Phrase` is refused.

The reader ends because it goes on behind the parts it has read, where no more tokens are left than before
(`within`). With as many tokens left it goes from the outer kinds of part to the inner ones.

## Contents

* `expect`, `within` — the tokens behind an expected one, and those behind a part.
* `parseExpr`, `parseHead`, `parseTail` — an expression, its first operand, and what takes that.
* `parse` — the expression that all the tokens are.
-/

namespace Pushdown.Sql

/-! ## Taking tokens -/

/-- The tokens behind an expected one. -/
def expect (t : Token) : (ts : List Token) → Option {rest : List Token // rest.length < ts.length}
  | [] => none
  | s :: rest => if s = t then some ⟨rest, Nat.lt_succ_self _⟩ else none

@[simp]
theorem expect_self (t : Token) (rest : List Token) :
    expect t (t :: rest) = some ⟨rest, Nat.lt_succ_self _⟩ := by
  simp [expect]

theorem expect_of_head?_ne {t : Token} {ts : List Token} (h : ts.head? ≠ some t) : expect t ts = none := by
  cases ts with
  | nil => rfl
  | cons s rest =>
    have hs : s ≠ t := fun hs => h (congrArg some hs)
    simp [expect, hs]

/-- A part with what is left of the tokens behind it. -/
def within {α : Type} (ts : List Token) (part : Option (α × List Token)) :
    Option (α × {rest : List Token // rest.length ≤ ts.length}) := do
  let (a, rest) ← part
  if h : rest.length ≤ ts.length then some (a, ⟨rest, h⟩) else none

@[simp]
theorem within_some {α : Type} {ts rest : List Token} {a : α} (h : rest.length ≤ ts.length) :
    within ts (some (a, rest)) = some (a, ⟨rest, h⟩) := by
  simp [within, h]

@[simp]
theorem within_none {α : Type} (ts : List Token) : within ts (none : Option (α × List Token)) = none := rfl

/-! ## Parts without expressions inside -/

/-- A name, or the name of a column behind that of its table. -/
def readName (text : String) : List Token → Phrase Token × List Token
  | .mark '.' :: .name column :: rest => (.path (.name text) (.name column), rest)
  | rest => (.atom (.name text), rest)

/-- A type. -/
def readType (ts : List Token) : List Token × List Token :=
  let words := ts.takeWhile Token.isBare
  match ts.dropWhile Token.isBare with
  | .mark '(' :: .number p :: .mark ')' :: rest =>
    (words ++ [.mark '(', .number p, .mark ')'], rest)
  | .mark '(' :: .number p :: .mark ',' :: .number s :: .mark ')' :: rest =>
    (words ++ [.mark '(', .number p, .mark ',', .number s, .mark ')'], rest)
  | rest => (words, rest)

/-- The unit of an EXTRACT. -/
def readUnit : List Token → Option (String × List Token)
  | .word unit :: .word "FROM" :: rest => if unit = "" then none else some (unit, rest)
  | _ => none

/-- The name that an argument of a call is passed by. -/
def readParameter : List Token → Option (String × List Token)
  | .word parameter :: .operator "=>" :: rest =>
    if lead parameter = .plain then some (parameter, rest) else none
  | _ => none

/-- Whether a test behind IS is negated. -/
def readNull : List Token → Option (Bool × List Token)
  | .word "NULL" :: rest => some (false, rest)
  | .word "NOT" :: .word "NULL" :: rest => some (true, rest)
  | _ => none

/-- Expressions between parentheses. -/
def bracket : List (Phrase Token) → Phrase Token
  | [p] => .group p
  | ps => .row ps

/-! ## Expressions -/

mutual

/-- An expression none of whose operators open towards the left is looser than `least`. -/
def parseExpr (low : Bool) (least : Nat) (ts : List Token) : Option (Phrase Token × List Token) := do
  let (p, ⟨rest, _⟩) ← within ts (parseHead low ts)
  parseTail low least p rest
termination_by 5 * ts.length + 1
decreasing_by all_goals omega

/-- The first operand of an expression. -/
def parseHead (low : Bool) (ts : List Token) : Option (Phrase Token × List Token) :=
  match ts with
  | .number text :: rest => some (.atom (.number text), rest)
  | .string text :: rest => some (.atom (.string text), rest)
  | .name text :: rest => some (readName text rest)
  | .operator text :: rest =>
    match signOf? text with
    | some negative => do
      let (p, rest) ← parseExpr low signLevel rest
      some (.sign negative p, rest)
    | none => none
  | .mark c :: rest =>
    if c = '(' then do
      let (ps, rest) ← parseList rest
      let ⟨rest, _⟩ ← expect (.mark ')') rest
      some (bracket ps, rest)
    else none
  | .word text :: rest => parseWord low text rest
  | .comment :: _ | [] => none
termination_by 5 * ts.length
decreasing_by all_goals simp only [List.length_cons]; omega

/-- An operand that begins with a word. -/
def parseWord (low : Bool) (text : String) (ts : List Token) : Option (Phrase Token × List Token) :=
  match lead text with
  | .not =>
    if low then none
    else do
      let (p, rest) ← parseExpr false notLevel ts
      some (.not p, rest)
  | .case => parseCase ts
  | .cast => do
    let ⟨rest, _⟩ ← expect (.mark '(') ts
    let (p, rest) ← parseExpr false 0 rest
    let ⟨rest, _⟩ ← expect (.word "AS") rest
    match readType rest with
    | (type, .mark ')' :: rest) => some (.cast p type, rest)
    | _ => none
  | .extract => do
    let ⟨rest, _⟩ ← expect (.mark '(') ts
    let (unit, ⟨rest, _⟩) ← within rest (readUnit rest)
    let (p, rest) ← parseExpr false 0 rest
    let ⟨rest, _⟩ ← expect (.mark ')') rest
    some (.extract unit p, rest)
  | .reserved => none
  | .plain =>
    match ts with
    | .mark c :: rest => if c = '(' then parseCall text rest else some (.atom (.word text), ts)
    | .string s :: rest => some (.typed text (.string s), rest)
    | ts => some (.atom (.word text), ts)
termination_by 5 * ts.length + 4
decreasing_by all_goals (try simp only [List.length_cons]); omega

/-- The arguments of a call, behind the opening parenthesis. -/
def parseCall (name : String) (ts : List Token) : Option (Phrase Token × List Token) :=
  if ts.head? = some (.mark ')') then some (.call name false [], ts.tail)
  else if ts.head? = some (.operator "*") then do
    let ⟨rest, _⟩ ← expect (.mark ')') ts.tail
    some (.callStar name, rest)
  else if ts.head? = some (.word "DISTINCT") then do
    let (ps, rest) ← parseList ts.tail
    let ⟨rest, _⟩ ← expect (.mark ')') rest
    some (.call name true ps, rest)
  else
    match within ts (readParameter ts) with
    | some (parameter, ⟨rest, _⟩) => do
      let (p, rest) ← parseExpr false 0 rest
      let ⟨rest, _⟩ ← expect (.mark ')') rest
      some (.callNamed name parameter p, rest)
    | none => do
      let (ps, rest) ← parseList ts
      let ⟨rest, _⟩ ← expect (.mark ')') rest
      some (.call name false ps, rest)
termination_by 5 * ts.length + 3
decreasing_by all_goals (try simp only [List.length_tail]); omega

/-- A CASE, behind its first word. -/
def parseCase (ts : List Token) : Option (Phrase Token × List Token) := do
  let (basis, ⟨rest, _⟩) ← within ts (parseBasis ts)
  let (arms, ⟨rest, _⟩) ← within rest (parseArms rest)
  if arms.isEmpty then none
  else do
    let (otherwise, rest) ← parseBehind "ELSE" 0 rest
    let ⟨rest, _⟩ ← expect (.word "END") rest
    some (.case basis arms otherwise, rest)
termination_by 5 * ts.length + 3
decreasing_by all_goals omega

/-- What the branches of a CASE are compared with, unless they come first. -/
def parseBasis (ts : List Token) : Option (Option (Phrase Token) × List Token) :=
  if ts.head? = some (.word "WHEN") then some (none, ts)
  else do
    let (p, rest) ← parseExpr false 0 ts
    some (some p, rest)
termination_by 5 * ts.length + 2
decreasing_by all_goals omega

/-- An expression behind a keyword, if that comes first. -/
def parseBehind (keyword : String) (least : Nat) (ts : List Token) :
    Option (Option (Phrase Token) × List Token) :=
  match expect (.word keyword) ts with
  | some ⟨rest, _⟩ => do
    let (p, rest) ← parseExpr false least rest
    some (some p, rest)
  | none => some (none, ts)
termination_by 5 * ts.length + 2
decreasing_by all_goals omega

/-- The branches of a CASE. -/
def parseArms (ts : List Token) : Option (List (Arm Token) × List Token) :=
  match expect (.word "WHEN") ts with
  | some ⟨rest, _⟩ => do
    let (condition, ⟨rest, _⟩) ← within rest (parseExpr false 0 rest)
    let ⟨rest, _⟩ ← expect (.word "THEN") rest
    let (result, ⟨rest, _⟩) ← within rest (parseExpr false 0 rest)
    let (arms, rest) ← parseArms rest
    some (.mk condition result :: arms, rest)
  | none => some ([], ts)
termination_by 5 * ts.length + 2
decreasing_by all_goals omega

/-- Expressions with commas between them. -/
def parseList (ts : List Token) : Option (List (Phrase Token) × List Token) := do
  let (p, ⟨rest, _⟩) ← within ts (parseExpr false 0 ts)
  match expect (.mark ',') rest with
  | some ⟨rest, _⟩ =>
    let (ps, rest) ← parseList rest
    some (p :: ps, rest)
  | none => some ([p], rest)
termination_by 5 * ts.length + 2
decreasing_by all_goals omega

/-- What takes the operand in front of it, as long as that binds at least as tightly as `least`. -/
def parseTail (low : Bool) (least : Nat) (left : Phrase Token) (ts : List Token) :
    Option (Phrase Token × List Token) :=
  match ts with
  | [] => some (left, [])
  | t :: rest =>
    match t.link? low with
    | none => some (left, t :: rest)
    | some link =>
      if link.level < least then some (left, t :: rest)
      else if left.ceiling < link.level then none
      else do
        let (p, ⟨rest, _⟩) ← within rest (parseLink low left link rest)
        parseTail low least p rest
termination_by 5 * ts.length
decreasing_by all_goals simp only [List.length_cons]; omega

/-- An operand with what takes it, behind the first token of that. -/
def parseLink (low : Bool) (left : Phrase Token) (link : Link) (ts : List Token) :
    Option (Phrase Token × List Token) :=
  match link with
  | .binary o => do
    let (right, rest) ← parseExpr low (o.level + 1) ts
    some (.binary o left right, rest)
  | .like => do
    let (pattern, ⟨rest, _⟩) ← within ts (parseExpr false (likeLevel + 1) ts)
    let (escape, rest) ← parseBehind "ESCAPE" (likeLevel + 1) rest
    some (.like left pattern escape, rest)
  | .between => do
    let (bound, ⟨rest, _⟩) ← within ts (parseExpr true 0 ts)
    let ⟨rest, _⟩ ← expect (.word "AND") rest
    let (high, rest) ← parseExpr false (likeLevel + 1) rest
    some (.between left bound high, rest)
  | .inList => do
    let ⟨rest, _⟩ ← expect (.mark '(') ts
    let (ps, rest) ← parseList rest
    let ⟨rest, _⟩ ← expect (.mark ')') rest
    some (.inList left ps, rest)
  | .isNull => do
    let (negated, rest) ← readNull ts
    some (.isNull negated left, rest)
termination_by 5 * ts.length + 3
decreasing_by all_goals omega

end

/-- The expression that all the tokens are. -/
def parse (ts : List Token) : Option (Phrase Token) :=
  match parseExpr false 0 ts with
  | some (p, []) => some p
  | _ => none

end Pushdown.Sql
