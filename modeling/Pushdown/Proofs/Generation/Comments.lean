import Pushdown.Proofs.Generation.Tokens
import Pushdown.Proofs.Sql.Comment

/-!
# `Proofs.Generation.Comments` — no generated text holds a comment

No node stands for a comment, so there is none among the tokens of a tree, however its parts are nested. The text falls
into exactly these tokens, and so nothing in it begins a comment: not a sign next to a negative number, not a division
next to a star.

## Contents

* `Uncommented` — tokens without comments.
* `uncommented_phrase` — the tokens of an expression.
* `uncommented_slots` — the tokens of any node.
* `Adapter.commentFree_compile` — the text that a caller gets.
-/

namespace Pushdown

open Sql (Token Slot Phrase listed bracketed yieldAll yieldOption yieldBehind yieldArms)

/-- None of the tokens is a comment. -/
def Uncommented (ss : List Slot) : Prop := ∀ s ∈ ss, s.token ≠ .comment

/-- None of the tokens of several phrases is a comment. -/
def UncommentedAll (ps : List (Phrase Slot)) : Prop := ∀ part ∈ yieldAll .fixed ps, Uncommented part

section Lists

@[simp] theorem uncommented_nil : Uncommented [] := by
  intro s hs
  cases hs

@[simp] theorem uncommented_cons (s : Slot) (ss : List Slot) :
    Uncommented (s :: ss) ↔ s.token ≠ .comment ∧ Uncommented ss := List.forall_mem_cons

@[simp] theorem uncommented_append (ss rest : List Slot) :
    Uncommented (ss ++ rest) ↔ Uncommented ss ∧ Uncommented rest := List.forall_mem_append

@[simp] theorem uncommented_fixed (ts : List Token) :
    Uncommented (ts.map .fixed) ↔ Token.comment ∉ ts := by
  unfold Uncommented
  simp only [List.forall_mem_map, Slot.token]
  constructor
  · intro h hmem
    exact h _ hmem rfl
  · rintro h t hmem rfl
    exact h hmem

@[simp] theorem uncommented_keywords (ws : List String) : Uncommented (keywords ws) := by
  unfold keywords
  induction ws with
  | nil => exact uncommented_nil
  | cons w ws ih => simpa [Slot.token] using ih

@[simp] theorem uncommented_bracketed (inner : List Slot) :
    Uncommented (bracketed .fixed inner) ↔ Uncommented inner := by
  simp [bracketed, Slot.token]

@[simp] theorem uncommented_listed (parts : List (List Slot)) :
    Uncommented (listed .fixed parts) ↔ ∀ part ∈ parts, Uncommented part := by
  induction parts with
  | nil => simp
  | cons part parts ih =>
    cases parts with
    | nil => simp
    | cons next parts =>
      rw [Sql.listed_cons_cons, uncommented_append, uncommented_cons, ih, List.forall_mem_cons]
      simp [Slot.token]

@[simp] theorem uncommented_yieldAll (ps : List (Phrase Slot)) :
    (∀ part ∈ yieldAll .fixed ps, Uncommented part) ↔ UncommentedAll ps := Iff.rfl

@[simp] theorem uncommentedAll_nil : UncommentedAll [] := by
  intro part hpart
  cases hpart

@[simp] theorem uncommentedAll_cons (p : Phrase Slot) (ps : List (Phrase Slot)) :
    UncommentedAll (p :: ps) ↔ Uncommented (p.yield .fixed) ∧ UncommentedAll ps :=
  List.forall_mem_cons

end Lists

/-! ## Phrases -/

attribute [local simp] Slot.token Phrase.yield

section Phrases

variable {ps : List (Phrase Slot)}

@[simp] theorem token_ne_comment (o : Sql.Operator) : o.token ≠ .comment := by
  cases o <;> simp [Sql.Operator.token]

/-- A call is written without a comment, in whatever form. -/
theorem uncommented_scalar (f : ScalarFunction) (form : ScalarForm) (h : UncommentedAll ps) :
    Uncommented ((form.phrase f ps).yield .fixed) := by
  cases form with
  | renamed name => simpa [ScalarForm.phrase] using h
  | call => simpa [ScalarForm.phrase] using h
  | bare =>
    cases ps with
    | nil => simp [ScalarForm.phrase]
    | cons p ps => simpa [ScalarForm.phrase] using h
  | interval unit =>
    rcases ps with _ | ⟨date, _ | ⟨amount, _ | ⟨next, rest⟩⟩⟩ <;> simp_all [ScalarForm.phrase]
  | between operator =>
    rcases ps with _ | ⟨left, _ | ⟨right, _ | ⟨next, rest⟩⟩⟩ <;> simp_all [ScalarForm.phrase]
  | datePart => rcases ps with _ | ⟨date, _ | ⟨next, rest⟩⟩ <;> simp_all [ScalarForm.phrase]
  | epoch =>
    rcases ps with _ | ⟨date, _ | ⟨next, rest⟩⟩ <;> simp_all [ScalarForm.phrase, Sql.unitTokens]
  | sign => rcases ps with _ | ⟨operand, _ | ⟨next, rest⟩⟩ <;> simp_all [ScalarForm.phrase, Sql.signToken]

theorem uncommented_aggregate (f : AggregateFunction) (distinct : Bool) (h : UncommentedAll ps) :
    Uncommented ((aggregatePhrase f distinct ps).yield .fixed) := by
  unfold aggregatePhrase
  split
  · simp
  · split
    · simpa using h
    · cases distinct <;> simpa using h

/-- AND and OR between operands begin no comment. -/
theorem uncommented_connective (operator : Sql.Operator) (h : UncommentedAll ps) :
    Uncommented ((connectivePhrase operator ps).yield .fixed) := by
  cases ps with
  | nil => simp [connectivePhrase]
  | cons first rest =>
    rw [uncommentedAll_cons] at h
    obtain ⟨hfirst, hrest⟩ := h
    rw [connectivePhrase, Phrase.yield, uncommented_bracketed]
    -- The operands are joined from the left, so the left one is any phrase.
    induction rest generalizing first with
    | nil => exact hfirst
    | cons next rest ih =>
      rw [uncommentedAll_cons] at hrest
      refine ih _ ?_ hrest.2
      simp [hfirst, hrest.1]

theorem uncommented_number (cs : List Char) : Uncommented ((numberPhrase cs).yield .fixed) := by
  unfold numberPhrase
  split <;> simp [Sql.signToken]

theorem uncommented_literal (l : Literal) : Uncommented (l.phrase.yield .fixed) := by
  cases l with
  | exact text => exact uncommented_number text.toList
  | double value =>
    rw [Literal.phrase]
    split
    · exact uncommented_number _
    · simp
  | _ => simp [Literal.phrase]

theorem uncommented_column (folding : CaseFolding) (c : Column) :
    Uncommented ((c.phrase folding).yield .fixed) := by
  unfold Column.phrase
  cases c.qualifier <;> simp

theorem comment_notMem_type (t : CanonicalType) : Token.comment ∉ t.tokens := by
  cases t with
  | timestamp withZone => cases withZone <;> simp [CanonicalType.tokens]
  | _ => simp [CanonicalType.tokens, CanonicalType.sizeTokens]

theorem uncommented_escape (escape : Option Node) :
    Uncommented (yieldBehind .fixed "ESCAPE" (escapePhrase escape)) := by
  unfold escapePhrase
  split <;> simp [yieldBehind]

theorem uncommented_separator (separator : Option String) :
    Uncommented ((separatorPhrase separator).yield .fixed) := by
  cases separator <;> simp [separatorPhrase]

theorem uncommented_behind {w : String} {p : Option (Phrase Slot)}
    (h : Uncommented (yieldOption .fixed p)) : Uncommented (yieldBehind .fixed w p) := by
  cases p with
  | none => exact h
  | some p => simpa [yieldBehind, yieldOption] using h

end Phrases

section Expressions

variable (folding : CaseFolding)

mutual

/-- The tokens of an expression hold no comment. -/
theorem uncommented_phrase : ∀ n : Node, Uncommented ((n.phrase folding).yield .fixed)
  | .column c => uncommented_column folding c
  | .literal l => uncommented_literal l
  | .predicate p => uncommented_predicate p
  | .scalar function arguments => uncommented_scalar function _ (uncommented_phrases arguments)
  | .extract unit argument => by
    have hunit : Token.comment ∉ Sql.unitTokens (Text.asciiUpper unit) := by
      unfold Sql.unitTokens
      split <;> simp
    simp [Node.phrase, hunit, uncommented_phrase argument]
  | .case basis branches otherwise => by
    simp [Node.phrase, uncommented_option basis, uncommented_arms branches,
      uncommented_behind (uncommented_option otherwise)]
  | .cast argument type => by
    simp [Node.phrase, uncommented_phrase argument, comment_notMem_type type]
  | .aggregate function arguments distinct =>
    uncommented_aggregate function distinct (uncommented_phrases arguments)
  | .groupConcat argument distinct _ separator => by
    cases distinct <;> simp [Node.phrase, uncommented_phrase argument, uncommented_separator separator]
  | .select _ _ _ _ _ _ _ | .selectList _ | .table _ | .join _ _ _ _ | .orderBy _ | .groupBy _
  | .limit _ => by simp [Node.phrase]

/-- The phrase of a condition holds no comment, whatever its operands are. -/
theorem uncommented_predicate : ∀ p : Predicate, Uncommented ((p.phrase folding).yield .fixed)
  | .and operands | .or operands => by
    rw [Predicate.phrase]
    exact uncommented_connective _ (uncommented_phrases operands)
  | .not operand => by simp [Predicate.phrase, uncommented_phrase operand]
  | .isNull operand | .isNotNull operand => by
    simp [Predicate.phrase, uncommented_phrase operand, Sql.nullTokens]
  | .equal left right | .notEqual left right | .less left right | .lessEqual left right
  | .regexp left right => by
    simp [Predicate.phrase, uncommented_phrase left, uncommented_phrase right]
  | .like value pattern escape => by
    simp [Predicate.phrase, uncommented_phrase value, uncommented_phrase pattern,
      uncommented_escape escape]
  | .between value low high => by
    simp [Predicate.phrase, uncommented_phrase value, uncommented_phrase low,
      uncommented_phrase high]
  | .inList value candidates => by
    simp [Predicate.phrase, uncommented_phrase value, uncommented_phrases candidates]

theorem uncommented_phrases : ∀ ns : List Node, UncommentedAll (phrases folding ns)
  | [] => uncommentedAll_nil
  | n :: ns => by simp [phrases, uncommented_phrase n, uncommented_phrases ns]

theorem uncommented_option : ∀ n : Option Node,
    Uncommented (yieldOption .fixed (optionPhrase folding n))
  | none => uncommented_nil
  | some n => uncommented_phrase n

theorem uncommented_arms : ∀ bs : List Branch, Uncommented (yieldArms .fixed (armPhrases folding bs))
  | [] => uncommented_nil
  | .mk condition result :: rest => by
    simp [armPhrases, yieldArms, uncommented_phrase condition, uncommented_phrase result,
      uncommented_arms rest]

end

/-! ## Statements -/

theorem uncommented_columnItem (c : Column) : Uncommented (c.itemSlots folding) := by
  have hcolumn := uncommented_column folding c
  unfold Column.itemSlots
  split
  next cast _ => cases cast <;> simp [ProjectionCast.slots, hcolumn]
  · exact uncommented_nil

theorem uncommented_item (n : Node) : Uncommented (n.itemSlots folding) := by
  cases n with
  | column c => exact uncommented_columnItem folding c
  | _ => exact uncommented_phrase folding _

/-- A select list holds no comment; the items of a `*` are columns. -/
theorem uncommented_list (source : Option Node) (list : SelectList) :
    Uncommented (list.slots folding source) := by
  cases list with
  | anyValue => simp [SelectList.slots]
  | wildcard =>
    cases source with
    | none => simp [SelectList.slots]
    | some node =>
      rw [SelectList.slots, wildcardSlots]
      split
      · simp
      · simp [uncommented_columnItem]
  | expressions items => simp [SelectList.slots, uncommented_item]

theorem comment_notMem_path (names : List String) : Token.comment ∉ Sql.pathTokens names := by
  induction names with
  | nil => simp [Sql.pathTokens]
  | cons name names ih =>
    cases names with
    | nil => simp [Sql.pathTokens]
    | cons next names => simpa [Sql.pathTokens] using ih

/-- A FROM clause holds no comment: names, the words of its joins, and conditions. -/
theorem uncommented_source (context : GenerationContext) (n : Node) :
    Uncommented (sourceSlots folding context n) := by
  have htable : ∀ t : Table, Token.comment ∉ t.tokens folding context := by
    intro t
    unfold Table.tokens
    split <;> simp [comment_notMem_path]
  induction n using Node.source_induction with
  | table t => simp [sourceSlots, htable]
  | join kind left right condition hleft hright =>
    have hcondition := uncommented_phrase folding condition
    cases right with
    | table t => simp [sourceSlots, hleft, htable, hcondition]
    | _ =>
      simp only [sourceSlots] at hright ⊢
      simp [hleft, hright, hcondition]
  | other n hn =>
    rw [sourceSlots_eq_nil folding hn]
    exact uncommented_nil

theorem uncommented_condition (keyword : String) (n : Option Node) :
    Uncommented (conditionSlots folding keyword n) := by
  cases n with
  | none => exact uncommented_nil
  | some n => simp [conditionSlots, uncommented_phrase]

theorem uncommented_grouping (keys : Option (List Node)) : Uncommented (groupingSlots folding keys) := by
  cases keys with
  | none => exact uncommented_nil
  | some keys => simp [groupingSlots, uncommented_phrase]

theorem uncommented_ordering (ordering : Option (List SortItem)) :
    Uncommented (orderingSlots folding ordering) := by
  have hkey : ∀ item, Uncommented (sortSlots folding item) := by
    rintro ⟨key, ascending, nullsLast⟩
    rw [sortSlots, uncommented_append, uncommented_append]
    refine ⟨⟨uncommented_phrase folding key, ?_⟩, ?_⟩
    · split <;> simp
    · split <;> simp
  cases ordering with
  | none => exact uncommented_nil
  | some items => simp [orderingSlots, hkey]

theorem uncommented_limit (bound : Option Limit) : Uncommented (limitSlots bound) := by
  cases bound with
  | none => exact uncommented_nil
  | some l =>
    rw [limitSlots, uncommented_fixed, limitTokens]
    cases l.offset <;> simp

/-- **No token of a tree is a comment.** -/
theorem uncommented_slots (context : GenerationContext) (n : Node) :
    Uncommented (n.slots folding context) := by
  cases n with
  | select list source filter keys having ordering bound =>
    simp [Node.slots, uncommented_list, uncommented_source, uncommented_condition,
      uncommented_grouping, uncommented_ordering, uncommented_limit]
  | selectList list => exact uncommented_list folding none list
  | table t => exact uncommented_source folding context _
  | join kind left right condition => exact uncommented_source folding context _
  | orderBy items => exact uncommented_ordering folding (some items)
  | groupBy keys => exact uncommented_grouping folding (some keys)
  | limit l => exact uncommented_limit (some l)
  | _ => exact uncommented_phrase folding _

end Expressions

/-- **A generated text falls into tokens without comments, and the characters that would begin one stand inside a quoted
name or string only.** -/
theorem Adapter.commentFree_compile {a : Adapter} (context : GenerationContext) {n : Node} {sql : String}
    (hn : n.plain) (h : (a.compile context n).result = .ok sql) : Sql.CommentFree sql.toList := by
  refine Sql.commentFree_of_lex (a.lex_compile context hn h) ?_
  rw [List.mem_map]
  rintro ⟨s, hs, htoken⟩
  exact uncommented_slots a.folding context n s hs htoken

/-- Signs behind signs, a quotient next to a star, a negative exponent, an interval, and a string and names that hold
the marks of comments. -/
theorem Adapter.commentFree_signs_and_stars :
    let column := fun name : String => Node.column { metadata := { name, notes := "", type := .boolean } }
    let negated := Node.scalar .neg [.scalar .neg [.literal (.exact "-5")]]
    let quotient := Node.scalar .floatDiv [.literal (.exact "-1e-2"), .literal (.double ⟨0xBE8AD7F29ABCAF48⟩)]
    let product := Node.scalar .mult [quotient, .aggregate .count [] false]
    let later := Node.scalar .addDays [column "d--", .literal (.exact "-3")]
    let n := Node.predicate (.and
      [.predicate (.less (.scalar .sub [negated, product]) (.literal (.string "--/*"))),
        .predicate (.equal later (column "/*"))])
    let a : Adapter := { properties := { entries := [] }, filter := ⟨.preserveCase, false⟩ }
    let sql := "((-(-(-5)) - ((-1e-2 / -2e-7) * COUNT(*))) < E'--/*' AND " ++
      "\"d--\" + make_interval(days => -3) = \"/*\")"
    n.plain ∧ (a.compile {} n).result = .ok sql ∧ Sql.CommentFree sql.toList := by
  intro column negated quotient product later n a sql
  have hplain : n.plain := by decide +kernel
  have hsql : (a.compile {} n).result = .ok sql := Outcome.eq_ok_of_toOption (by decide +kernel)
  exact ⟨hplain, hsql, commentFree_compile {} hplain hsql⟩

end Pushdown
