import Pushdown.Proofs.Sql.Token
import Pushdown.Sql.Expr

/-!
# `Proofs.Sql.Phrase` — SQL expressions as trees over tokens

A phrase is what a parser makes of the tokens of an expression: every operator holds its operands, and the brackets
that were written are still there. Its leaves are of any type, so that a phrase can also be made of tokens that
know more of themselves, such as whether they come from a text of the query (`Slot`).

## Contents

* `Phrase`, `Arm` — the trees.
* `Phrase.yield` — the leaves from left to right, with the tokens between them.
* `Phrase.map`, `yield_map` — phrases with other leaves.
* `Slot` — a token that belongs to the grammar, or carries a text of the query.
-/

namespace Pushdown.Sql

mutual

/-- An SQL expression over leaves. -/
inductive Phrase (τ : Type)
  /-- A constant, a name, or a word that stands for a value. -/
  | atom (leaf : τ)
  /-- A name behind the name that qualifies it. -/
  | path (qualifier name : τ)
  /-- A constant behind the name of its type. -/
  | typed (type : String) (text : τ)
  /-- An expression between parentheses. -/
  | group (inner : Phrase τ)
  /-- Several expressions between parentheses. -/
  | row (items : List (Phrase τ))
  | call (name : String) (distinct : Bool) (arguments : List (Phrase τ))
  | callStar (name : String)
  | callNamed (name parameter : String) (argument : Phrase τ)
  | cast (operand : Phrase τ) (type : List Token)
  | extract (unit : String) (operand : Phrase τ)
  | case (basis : Option (Phrase τ)) (arms : List (Arm τ)) (otherwise : Option (Phrase τ))
  | sign (negative : Bool) (operand : Phrase τ)
  | not (operand : Phrase τ)
  | binary (operator : Operator) (left right : Phrase τ)
  | like (value pattern : Phrase τ) (escape : Option (Phrase τ))
  | between (value low high : Phrase τ)
  | inList (value : Phrase τ) (candidates : List (Phrase τ))
  | isNull (negated : Bool) (operand : Phrase τ)

/-- One branch of a CASE. -/
inductive Arm (τ : Type)
  | mk (condition result : Phrase τ)

end

namespace Operator

/-- The token of an operator. -/
def token (o : Operator) : Token :=
  match o with
  | .and | .or => .word o.text
  | _ => .operator o.text

end Operator

/-! ## Yields -/

/-- The token of a sign. -/
def signToken (negative : Bool) : Token := .operator (if negative then "-" else "+")

/-- The token of a unit; an empty unit is no token. -/
def unitTokens (unit : String) : List Token := if unit = "" then [] else [.word unit]

/-- The tokens behind an operand that test whether it is missing. -/
def nullTokens (negated : Bool) : List Token :=
  if negated then [.word "IS", .word "NOT", .word "NULL"] else [.word "IS", .word "NULL"]

section Yield

variable {τ : Type} (leaf : Token → τ)

/-- Parts with commas between them. -/
def listed (parts : List (List τ)) : List τ := [leaf (.mark ',')].intercalate parts

@[simp] theorem listed_nil : listed leaf [] = [] := rfl

@[simp] theorem listed_singleton (part : List τ) : listed leaf [part] = part :=
  List.append_nil part

@[simp] theorem listed_cons_cons (part next : List τ) (parts : List (List τ)) :
    listed leaf (part :: next :: parts) = part ++ leaf (.mark ',') :: listed leaf (next :: parts) := by
  rw [listed, List.intercalate_cons_cons, List.append_assoc, List.singleton_append, listed]

/-- Leaves between parentheses. -/
def bracketed (inner : List τ) : List τ := leaf (.mark '(') :: inner ++ [leaf (.mark ')')]

mutual

/-- The leaves of a phrase from left to right, with the tokens between them made leaves. -/
def Phrase.yield : Phrase τ → List τ
  | .atom t => [t]
  | .path qualifier name => [qualifier, leaf (.mark '.'), name]
  | .typed type text => [leaf (.word type), text]
  | .group inner => bracketed leaf inner.yield
  | .row items => bracketed leaf (listed leaf (yieldAll items))
  | .call name distinct arguments =>
    leaf (.word name) ::
      bracketed leaf
        ((if distinct then [leaf (.word "DISTINCT")] else []) ++ listed leaf (yieldAll arguments))
  | .callStar name => leaf (.word name) :: bracketed leaf [leaf (.operator "*")]
  | .callNamed name parameter argument =>
    leaf (.word name) ::
      bracketed leaf (leaf (.word parameter) :: leaf (.operator "=>") :: argument.yield)
  | .cast operand type =>
    leaf (.word "CAST") :: bracketed leaf (operand.yield ++ leaf (.word "AS") :: type.map leaf)
  | .extract unit operand =>
    leaf (.word "EXTRACT") ::
      bracketed leaf ((unitTokens unit).map leaf ++ leaf (.word "FROM") :: operand.yield)
  | .case basis arms otherwise =>
    leaf (.word "CASE") :: yieldOption basis ++ yieldArms arms ++ yieldBehind "ELSE" otherwise ++
      [leaf (.word "END")]
  | .sign negative operand => leaf (signToken negative) :: operand.yield
  | .not operand => leaf (.word "NOT") :: operand.yield
  | .binary operator left right => left.yield ++ leaf operator.token :: right.yield
  | .like value pattern escape =>
    value.yield ++ leaf (.word "LIKE") :: pattern.yield ++ yieldBehind "ESCAPE" escape
  | .between value low high =>
    value.yield ++ leaf (.word "BETWEEN") :: low.yield ++ leaf (.word "AND") :: high.yield
  | .inList value candidates =>
    value.yield ++ leaf (.word "IN") :: bracketed leaf (listed leaf (yieldAll candidates))
  | .isNull negated operand => operand.yield ++ (nullTokens negated).map leaf

/-- The leaves of each of several phrases. -/
def yieldAll : List (Phrase τ) → List (List τ)
  | [] => []
  | p :: ps => p.yield :: yieldAll ps

/-- The leaves of a phrase, if there is one. -/
def yieldOption : Option (Phrase τ) → List τ
  | none => []
  | some p => p.yield

/-- The leaves of a phrase behind a keyword, if there is one. -/
def yieldBehind (keyword : String) : Option (Phrase τ) → List τ
  | none => []
  | some p => leaf (.word keyword) :: p.yield

/-- The leaves of the branches of a CASE. -/
def yieldArms : List (Arm τ) → List τ
  | [] => []
  | .mk condition result :: arms =>
    leaf (.word "WHEN") :: condition.yield ++ leaf (.word "THEN") :: result.yield ++ yieldArms arms

end

end Yield

/-- The tokens of a phrase. -/
abbrev Phrase.tokens (p : Phrase Token) : List Token := p.yield id

/-! ## Other leaves -/

section Map

variable {τ σ : Type} (f : τ → σ)

mutual

/-- The phrase with every leaf replaced. -/
def Phrase.map : Phrase τ → Phrase σ
  | .atom t => .atom (f t)
  | .path qualifier name => .path (f qualifier) (f name)
  | .typed type text => .typed type (f text)
  | .group inner => .group inner.map
  | .row items => .row (mapAll items)
  | .call name distinct arguments => .call name distinct (mapAll arguments)
  | .callStar name => .callStar name
  | .callNamed name parameter argument => .callNamed name parameter argument.map
  | .cast operand type => .cast operand.map type
  | .extract unit operand => .extract unit operand.map
  | .case basis arms otherwise => .case (mapOption basis) (mapArms arms) (mapOption otherwise)
  | .sign negative operand => .sign negative operand.map
  | .not operand => .not operand.map
  | .binary operator left right => .binary operator left.map right.map
  | .like value pattern escape => .like value.map pattern.map (mapOption escape)
  | .between value low high => .between value.map low.map high.map
  | .inList value candidates => .inList value.map (mapAll candidates)
  | .isNull negated operand => .isNull negated operand.map

/-- Each of several phrases with every leaf replaced. -/
def mapAll : List (Phrase τ) → List (Phrase σ)
  | [] => []
  | p :: ps => p.map :: mapAll ps

/-- A phrase, if there is one, with every leaf replaced. -/
def mapOption : Option (Phrase τ) → Option (Phrase σ)
  | none => none
  | some p => some p.map

/-- The branches of a CASE with every leaf replaced. -/
def mapArms : List (Arm τ) → List (Arm σ)
  | [] => []
  | .mk condition result :: arms => .mk condition.map result.map :: mapArms arms

end

theorem mapAll_eq_map (ps : List (Phrase τ)) : mapAll f ps = ps.map (·.map f) := by
  induction ps with
  | nil => rfl
  | cons p ps ih => rw [mapAll, ih, List.map_cons]

variable (leaf : Token → τ)

/-- Changing the leaves commutes with putting commas between the parts. -/
theorem listed_map (parts : List (List τ)) :
    listed (f ∘ leaf) (parts.map (List.map f)) = (listed leaf parts).map f := by
  induction parts with
  | nil => rfl
  | cons part parts ih =>
    cases parts with
    | nil => simp
    | cons next parts =>
      rw [List.map_cons] at ih
      simp [ih]

theorem bracketed_map (inner : List τ) :
    bracketed (f ∘ leaf) (inner.map f) = (bracketed leaf inner).map f := by
  simp [bracketed]

mutual

/-- The leaves of a phrase with every leaf replaced. -/
theorem yield_map : ∀ p : Phrase τ, (p.map f).yield (f ∘ leaf) = (p.yield leaf).map f
  | .atom _ => by simp [Phrase.map, Phrase.yield]
  | .path _ _ => by simp [Phrase.map, Phrase.yield]
  | .typed _ _ => by simp [Phrase.map, Phrase.yield]
  | .group inner => by simp [Phrase.map, Phrase.yield, yield_map inner, bracketed_map]
  | .row items => by simp [Phrase.map, Phrase.yield, yieldAll_map items, bracketed_map, listed_map]
  | .call _ distinct arguments => by
    cases distinct <;>
      simp [Phrase.map, Phrase.yield, yieldAll_map arguments, bracketed, listed_map]
  | .callStar _ => by simp [Phrase.map, Phrase.yield, bracketed]
  | .callNamed _ _ argument => by simp [Phrase.map, Phrase.yield, yield_map argument, bracketed]
  | .cast operand _ => by simp [Phrase.map, Phrase.yield, yield_map operand, bracketed]
  | .extract _ operand => by simp [Phrase.map, Phrase.yield, yield_map operand, bracketed]
  | .case basis arms otherwise => by
    simp [Phrase.map, Phrase.yield, yieldOption_map basis, yieldArms_map arms,
      yieldBehind_map _ otherwise]
  | .sign _ operand => by simp [Phrase.map, Phrase.yield, yield_map operand]
  | .not operand => by simp [Phrase.map, Phrase.yield, yield_map operand]
  | .binary _ left right => by simp [Phrase.map, Phrase.yield, yield_map left, yield_map right]
  | .like value pattern escape => by
    simp [Phrase.map, Phrase.yield, yield_map value, yield_map pattern, yieldBehind_map _ escape]
  | .between value low high => by
    simp [Phrase.map, Phrase.yield, yield_map value, yield_map low, yield_map high]
  | .inList value candidates => by
    simp [Phrase.map, Phrase.yield, yield_map value, yieldAll_map candidates, bracketed, listed_map]
  | .isNull _ operand => by simp [Phrase.map, Phrase.yield, yield_map operand]

theorem yieldAll_map : ∀ ps : List (Phrase τ),
    yieldAll (f ∘ leaf) (mapAll f ps) = (yieldAll leaf ps).map (List.map f)
  | [] => by simp [mapAll, yieldAll]
  | p :: ps => by simp [mapAll, yieldAll, yield_map p, yieldAll_map ps]

theorem yieldOption_map : ∀ p : Option (Phrase τ),
    yieldOption (f ∘ leaf) (mapOption f p) = (yieldOption leaf p).map f
  | none => by simp [mapOption, yieldOption]
  | some p => by simp [mapOption, yieldOption, yield_map p]

theorem yieldBehind_map (keyword : String) : ∀ p : Option (Phrase τ),
    yieldBehind (f ∘ leaf) keyword (mapOption f p) = (yieldBehind leaf keyword p).map f
  | none => by simp [mapOption, yieldBehind]
  | some p => by simp [mapOption, yieldBehind, yield_map p]

theorem yieldArms_map : ∀ arms : List (Arm τ),
    yieldArms (f ∘ leaf) (mapArms f arms) = (yieldArms leaf arms).map f
  | [] => by simp [mapArms, yieldArms]
  | .mk condition result :: arms => by
    simp [mapArms, yieldArms, yield_map condition, yield_map result, yieldArms_map arms]

end

end Map

/-! ## Tokens that carry a text of the query -/

/-- A token of written SQL. -/
inductive Slot
  /-- It is the same whatever texts the query holds. -/
  | fixed (token : Token)
  /-- It carries a text of the query. -/
  | payload (token : Token)
deriving DecidableEq

namespace Slot

/-- The token itself. -/
def token : Slot → Token
  | .fixed t => t
  | .payload t => t

/-- The token, if it carries a text of the query. -/
def payload? : Slot → Option Token
  | .fixed _ => none
  | .payload t => some t

/-- The token without the text that it carries. -/
def frame : Slot → Slot
  | .fixed t => .fixed t
  | .payload (.name _) => .payload (.name "")
  | .payload (.string _) => .payload (.string "")
  | .payload t => .payload t

end Slot

end Pushdown.Sql
