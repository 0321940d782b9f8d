import Pushdown.Proofs.Query.Erase
import Pushdown.Proofs.Query.Slots

/-!
# `Proofs.Query.Payload` — the texts of a query among its tokens

The tokens of a query that carry a text are, from left to right, the texts of the tree that are written.

## Contents

* `Node.texts`, `Node.payloads` — the texts of an expression, and of any node.
* `payloads_phrase`, `payloads_slots` — the tokens carry exactly these.
-/

namespace Pushdown

open Sql (Token Slot Phrase Arm listed bracketed yieldAll yieldOption yieldBehind yieldArms)

/-! ## The texts of a tree -/

/-- The text of a constant that is escaped. -/
def Literal.texts : Literal → List Token
  | .string text => [.string text]
  | _ => []

/-- The text of the escape of a LIKE. -/
def escapeTexts : Option Node → List Token
  | some (.literal (.string text)) => [.string text]
  | _ => []

/-- The text of the separator of a string aggregation. -/
def separatorTexts : Option String → List Token
  | some text => [.string text]
  | none => []

section Texts

variable (folding : CaseFolding)

mutual

/-- The texts of an expression from left to right, each as the token that is to carry it. -/
def Node.texts : Node → List Token
  | .column c => [.name (folding.written c.name)]
  | .literal l => l.texts
  | .predicate p => p.texts
  | .scalar _ arguments => textsAll arguments
  | .extract _ argument => argument.texts
  | .case basis branches otherwise =>
    optionTexts basis ++ branchTexts branches ++ optionTexts otherwise
  | .cast argument _ => argument.texts
  | .aggregate _ arguments _ => textsAll arguments
  | .groupConcat argument _ _ separator => argument.texts ++ separatorTexts separator
  | .select _ _ _ _ _ _ _ | .selectList _ | .table _ | .join _ _ _ _ | .orderBy _ | .groupBy _
  | .limit _ => []

/-- The texts of a condition. -/
def Predicate.texts : Predicate → List Token
  | .and operands | .or operands => textsAll operands
  | .not operand | .isNull operand | .isNotNull operand => operand.texts
  | .equal left right | .notEqual left right | .less left right | .lessEqual left right =>
    left.texts ++ right.texts
  | .like value pattern escape => value.texts ++ pattern.texts ++ escapeTexts escape
  | .regexp value pattern => value.texts ++ pattern.texts
  | .between value low high => value.texts ++ low.texts ++ high.texts
  | .inList value candidates => value.texts ++ textsAll candidates

/-- The texts of several expressions. -/
def textsAll : List Node → List Token
  | [] => []
  | n :: ns => n.texts ++ textsAll ns

/-- The texts of an expression, if there is one. -/
def optionTexts : Option Node → List Token
  | none => []
  | some n => n.texts

/-- The texts of the branches of a CASE. -/
def branchTexts : List Branch → List Token
  | [] => []
  | .mk condition result :: rest => condition.texts ++ result.texts ++ branchTexts rest

end

/-- The name of a column that stands directly in a select list. A notice stands for a column of a type that is not
supported. -/
def Column.itemTexts (c : Column) : List Token :=
  match c.metadata.projectionCast with
  | .ok (.unsupported _) | .error _ => []
  | .ok _ => [.name (folding.written c.name)]

/-- The texts of an item of a select list. -/
def Node.itemTexts : Node → List Token
  | .column c => c.itemTexts folding
  | node => node.texts folding

/-- The texts of a select list. The columns of a FROM clause are only written if one needs a cast. -/
def SelectList.texts (source : Option Node) : SelectList → List Token
  | .anyValue => []
  | .wildcard =>
    match source with
    | none => []
    | some node =>
      let columns := node.fromColumns node.isJoin
      if columns.all (·.metadata.castFree) then [] else columns.flatMap (·.itemTexts folding)
  | .expressions items => items.flatMap (·.itemTexts folding)

/-- The texts of a FROM clause. -/
def sourceTexts : Node → List Token
  | .join _ left right condition => sourceTexts left ++ sourceTexts right ++ condition.texts folding
  | _ => []

/-- The texts of an ordering. -/
def orderingTexts : List SortItem → List Token
  | [] => []
  | .mk key _ _ :: rest => key.texts folding ++ orderingTexts rest

/-- The texts of any node that are written, from left to right. -/
def Node.payloads : Node → List Token
  | .select list source filter keys having ordering _ =>
    list.texts folding (some source) ++ sourceTexts folding source ++ optionTexts folding filter ++
      textsAll folding (keys.getD []) ++ optionTexts folding having ++
      orderingTexts folding (ordering.getD [])
  | .selectList list => list.texts folding none
  | .join kind left right condition => sourceTexts folding (.join kind left right condition)
  | .orderBy items => orderingTexts folding items
  | .groupBy keys => textsAll folding keys
  | node => node.texts folding

end Texts

/-! ## The tokens that carry a text -/

/-- The tokens that carry a text. -/
def payloadsOf (ss : List Slot) : List Token := ss.filterMap Slot.payload?

/-- The tokens of several phrases that carry a text. -/
def payloadsOfAll (ps : List (Phrase Slot)) : List Token := (yieldAll .fixed ps).flatMap payloadsOf

section Carried

@[simp] theorem payloadsOf_nil : payloadsOf [] = [] := rfl

@[simp] theorem payloadsOf_cons_fixed (t : Token) (ss : List Slot) :
    payloadsOf (.fixed t :: ss) = payloadsOf ss := rfl

@[simp] theorem payloadsOf_cons_payload (t : Token) (ss : List Slot) :
    payloadsOf (.payload t :: ss) = t :: payloadsOf ss := rfl

@[simp] theorem payloadsOf_append (ss rest : List Slot) :
    payloadsOf (ss ++ rest) = payloadsOf ss ++ payloadsOf rest := List.filterMap_append

@[simp] theorem payloadsOf_fixed (ts : List Token) : payloadsOf (ts.map .fixed) = [] := by
  induction ts with
  | nil => rfl
  | cons t ts ih => simp [ih]

@[simp] theorem payloadsOf_keywords (ws : List String) : payloadsOf (keywords ws) = [] := by
  simpa [keywords, Function.comp_def] using payloadsOf_fixed (ws.map .word)

@[simp] theorem payloadsOf_listed (parts : List (List Slot)) :
    payloadsOf (listed .fixed parts) = parts.flatMap payloadsOf := by
  induction parts with
  | nil => rfl
  | cons part parts ih =>
    cases parts with
    | nil => simp
    | cons next parts => simp [ih]

@[simp] theorem payloadsOf_bracketed (inner : List Slot) :
    payloadsOf (bracketed .fixed inner) = payloadsOf inner := by
  simp [bracketed]

@[simp] theorem payloadsOf_yieldAll (ps : List (Phrase Slot)) :
    (yieldAll .fixed ps).flatMap payloadsOf = payloadsOfAll ps := rfl

@[simp] theorem payloadsOfAll_nil : payloadsOfAll [] = [] := rfl

@[simp] theorem payloadsOfAll_cons (p : Phrase Slot) (ps : List (Phrase Slot)) :
    payloadsOfAll (p :: ps) = payloadsOf (p.yield .fixed) ++ payloadsOfAll ps := rfl

end Carried

section Phrases

variable {f : ScalarFunction} {ps : List (Phrase Slot)}

/-- A call carries the texts of its arguments in their order, in whatever form it is written, as long as it has as
many of them as the form takes. -/
theorem payloads_scalar (form : ScalarForm) (h : ∀ n ∈ form.arity?, ps.length = n) :
    payloadsOf ((form.phrase f ps).yield .fixed) = payloadsOfAll ps := by
  cases form with
  | renamed name => simp [ScalarForm.phrase, Phrase.yield]
  | call => simp [ScalarForm.phrase, Phrase.yield]
  | bare => cases ps <;> simp [ScalarForm.phrase, Phrase.yield]
  | interval unit =>
    match ps, h 2 rfl with
    | [date, amount], _ => simp [ScalarForm.phrase, Phrase.yield]
  | between operator =>
    match ps, h 2 rfl with
    | [left, right], _ => simp [ScalarForm.phrase, Phrase.yield]
  | datePart =>
    match ps, h 1 rfl with
    | [date], _ => simp [ScalarForm.phrase, Phrase.yield]
  | epoch =>
    match ps, h 1 rfl with
    | [date], _ => simp [ScalarForm.phrase, Phrase.yield]
  | sign =>
    match ps, h 1 rfl with
    | [operand], _ => simp [ScalarForm.phrase, Phrase.yield]

/-- An aggregate function carries the texts of its arguments, between the brackets of a row or not. -/
theorem payloads_aggregate (function : AggregateFunction) (distinct : Bool) :
    payloadsOf ((aggregatePhrase function distinct ps).yield .fixed) = payloadsOfAll ps := by
  unfold aggregatePhrase
  split
  next hempty =>
    rw [List.isEmpty_iff] at hempty
    subst hempty
    rfl
  next =>
    split
    · simp [Phrase.yield, yieldAll]
    · cases distinct <;> simp [Phrase.yield]

/-- AND and OR carry the texts of their operands from left to right, however they are nested. -/
theorem payloads_connective (operator : Sql.Operator) :
    payloadsOf ((connectivePhrase operator ps).yield .fixed) = payloadsOfAll ps := by
  cases ps with
  | nil => rfl
  | cons first rest =>
    suffices h : ∀ left : Phrase Slot,
        payloadsOf ((rest.foldl (fun left right => .binary operator left right) left).yield .fixed) =
          payloadsOf (left.yield .fixed) ++ payloadsOfAll rest by
      simpa [connectivePhrase, Phrase.yield, yieldAll] using h first
    induction rest with
    | nil => simp
    | cons next rest ih =>
      intro left
      simp [ih, Phrase.yield]

end Phrases

theorem payloads_number (cs : List Char) : payloadsOf ((numberPhrase cs).yield .fixed) = [] := by
  unfold numberPhrase
  split <;> rfl

/-- Of all constants only a string carries a text from outside. -/
theorem payloads_literal (l : Literal) : payloadsOf (l.phrase.yield .fixed) = l.texts := by
  cases l with
  | double value =>
    rw [Literal.phrase]
    split
    · exact payloads_number _
    · rfl
  | exact text => exact payloads_number _
  | _ => rfl

theorem payloads_column (folding : CaseFolding) (c : Column) :
    payloadsOf ((c.phrase folding).yield .fixed) = [.name (folding.written c.name)] := by
  unfold Column.phrase
  cases c.qualifier <;> rfl

theorem payloads_separator (separator : Option String) :
    payloadsOf ((separatorPhrase separator).yield .fixed) = separatorTexts separator := by
  cases separator <;> rfl

theorem payloads_behind (keyword : String) (p : Option (Phrase Slot)) :
    payloadsOf (yieldBehind .fixed keyword p) = payloadsOf (yieldOption .fixed p) := by
  cases p <;> rfl

theorem payloads_escape {escape : Option Node} (h : isEscape escape) :
    payloadsOf (yieldOption .fixed (escapePhrase escape)) = escapeTexts escape := by
  unfold isEscape at h
  split at h
  · rfl
  · rfl
  · cases h

section Expressions

variable (folding : CaseFolding)

mutual

/-- The tokens of an expression carry its texts. -/
theorem payloads_phrase : ∀ n : Node, n.expressible →
    payloadsOf ((n.phrase folding).yield .fixed) = n.texts folding
  | .column c, _ => payloads_column folding c
  | .literal l, _ => payloads_literal l
  | .predicate p, h => payloads_predicate p h
  | .scalar function arguments, h => by
    simp only [Node.expressible, Bool.and_eq_true, takes_iff] at h
    rw [Node.phrase, payloads_scalar _ (by simpa only [length_phrases] using h.1),
      payloads_phrases arguments h.2, Node.texts]
  | .extract _ argument, h => by simp [Node.phrase, Phrase.yield, Node.texts, payloads_phrase argument h]
  | .case basis branches otherwise, h => by
    simp only [Node.expressible, Bool.and_eq_true] at h
    simp [Node.phrase, Phrase.yield, Node.texts, payloads_option basis h.1.2,
      payloads_arms branches h.1.1.2, payloads_behind, payloads_option otherwise h.2]
  | .cast argument _, h => by simp [Node.phrase, Phrase.yield, Node.texts, payloads_phrase argument h]
  | .aggregate _ arguments _, h => by
    rw [Node.phrase, payloads_aggregate, payloads_phrases arguments h, Node.texts]
  | .groupConcat argument distinct _ separator, h => by
    cases distinct <;>
      simp [Node.phrase, Phrase.yield, Node.texts, payloads_phrase argument h, payloads_separator]

/-- **The tokens of a condition carry its texts, in order.** One case for each kind of condition; the words between
the operands carry none. -/
theorem payloads_predicate : ∀ p : Predicate, p.expressible →
    payloadsOf ((p.phrase folding).yield .fixed) = p.texts folding
  | .and operands, h => by
    simp only [Predicate.expressible, Bool.and_eq_true] at h
    rw [Predicate.phrase, payloads_connective, payloads_phrases operands h.2, Predicate.texts]
  | .or operands, h => by
    simp only [Predicate.expressible, Bool.and_eq_true] at h
    rw [Predicate.phrase, payloads_connective, payloads_phrases operands h.2, Predicate.texts]
  | .not operand, h => by
    simp [Predicate.phrase, Phrase.yield, Predicate.texts, payloads_phrase operand h]
  | .equal left right, h | .notEqual left right, h | .less left right, h | .lessEqual left right, h
  | .regexp left right, h => by
    simp only [Predicate.expressible, Bool.and_eq_true] at h
    simp [Predicate.phrase, Phrase.yield, Predicate.texts, payloads_phrase left h.1,
      payloads_phrase right h.2]
  | .like value pattern escape, h => by
    simp only [Predicate.expressible, Bool.and_eq_true] at h
    simp [Predicate.phrase, Phrase.yield, Predicate.texts, payloads_phrase value h.1.1,
      payloads_phrase pattern h.1.2, payloads_behind, payloads_escape h.2]
  | .between value low high, h => by
    simp only [Predicate.expressible, Bool.and_eq_true] at h
    simp [Predicate.phrase, Phrase.yield, Predicate.texts, payloads_phrase value h.1.1,
      payloads_phrase low h.1.2, payloads_phrase high h.2]
  | .inList value candidates, h => by
    simp only [Predicate.expressible, Bool.and_eq_true] at h
    simp [Predicate.phrase, Phrase.yield, Predicate.texts, payloads_phrase value h.1.2,
      payloads_phrases candidates h.2]
  | .isNull operand, h | .isNotNull operand, h => by
    simp [Predicate.phrase, Phrase.yield, Predicate.texts, payloads_phrase operand h]

theorem payloads_phrases : ∀ ns : List Node, allExpressible ns →
    payloadsOfAll (phrases folding ns) = textsAll folding ns
  | [], _ => rfl
  | n :: ns, h => by
    simp only [allExpressible, Bool.and_eq_true] at h
    simp [phrases, textsAll, payloads_phrase n h.1, payloads_phrases ns h.2]

theorem payloads_option : ∀ n : Option Node, optionExpressible n →
    payloadsOf (yieldOption .fixed (optionPhrase folding n)) = optionTexts folding n
  | none, _ => rfl
  | some n, h => payloads_phrase n h

theorem payloads_arms : ∀ bs : List Branch, branchesExpressible bs →
    payloadsOf (yieldArms .fixed (armPhrases folding bs)) = branchTexts folding bs
  | [], _ => rfl
  | .mk condition result :: rest, h => by
    simp only [branchesExpressible, Bool.and_eq_true] at h
    simp [armPhrases, yieldArms, branchTexts, payloads_phrase condition h.1.1,
      payloads_phrase result h.1.2, payloads_arms rest h.2]

end

end Expressions

/-! ## Statements -/

section Statements

variable (folding : CaseFolding) (context : GenerationContext)

theorem payloads_columnItem (c : Column) : payloadsOf (c.itemSlots folding) = c.itemTexts folding := by
  unfold Column.itemSlots Column.itemTexts
  cases c.metadata.projectionCast with
  | error fault => rfl
  | ok cast => cases cast <;> simp [ProjectionCast.slots, Phrase.yield, payloads_column]

theorem payloads_item (n : Node) (h : n.projectable) :
    payloadsOf (n.itemSlots folding) = n.itemTexts folding := by
  cases n with
  | column c => exact payloads_columnItem folding c
  | _ => exact payloads_phrase folding _ h

/-- A select list carries the texts of its items; a `*` those of the columns that it stands for, if they are written
out. -/
theorem payloads_list (source : Option Node) (list : SelectList) (h : list.wellFormed source) :
    payloadsOf (list.slots folding source) = list.texts folding source := by
  cases list with
  | anyValue => rfl
  | wildcard =>
    cases source with
    | none => rfl
    | some node =>
      simp only [SelectList.slots, SelectList.texts, wildcardSlots]
      split
      · rfl
      · simp [List.flatMap_map, payloads_columnItem]
  | expressions items =>
    simp only [SelectList.wellFormed, Bool.and_eq_true, List.all_eq_true] at h
    simp only [SelectList.slots, SelectList.texts, payloadsOf_listed, List.flatMap_map]
    rw [List.flatMap_def, List.flatMap_def,
      List.map_congr_left fun n hn => payloads_item folding n (h.2 n hn)]

/-- A FROM clause carries the texts of its conditions, in the order of the joins; the names of its tables are fixed. -/
theorem payloads_source (n : Node) (h : n.joinsTables) :
    payloadsOf (sourceSlots folding context n) = sourceTexts folding n := by
  induction n using Node.source_induction with
  | table t => simp [sourceSlots, sourceTexts]
  | join kind left right condition hleft hright =>
    simp only [Node.joinsTables, Bool.and_eq_true] at h
    have hr := hright h.1.2
    have hc := payloads_phrase folding condition h.2
    cases right with
    | table t => simp [sourceSlots, sourceTexts, hleft h.1.1, hc]
    | join kind' left' right' condition' =>
      rw [sourceSlots, sourceTexts]
      · simp [hleft h.1.1, hc, hr]
      · intro t ht
        cases ht
    | _ => cases h.1.2
  | other n hn =>
    rw [Node.joinsTables_eq_false hn] at h
    cases h

theorem payloads_condition (keyword : String) (n : Option Node) (h : optionExpressible n) :
    payloadsOf (conditionSlots folding keyword n) = optionTexts folding n := by
  cases n with
  | none => rfl
  | some n => simpa [conditionSlots, optionTexts] using payloads_phrase folding n h

theorem payloads_grouping (keys : Option (List Node)) (h : isGrouping keys) :
    payloadsOf (groupingSlots folding keys) = textsAll folding (keys.getD []) := by
  cases keys with
  | none => rfl
  | some keys =>
    simp only [isGrouping, Bool.and_eq_true] at h
    simp only [groupingSlots, payloadsOf_append, payloadsOf_keywords, payloadsOf_listed,
      ← yieldAll_phrases, payloadsOf_yieldAll, payloads_phrases folding keys h.2]
    rfl

theorem payloads_sortKey (key : Node) (ascending nullsLast : Bool) (h : key.expressible) :
    payloadsOf (sortSlots folding (.mk key ascending nullsLast)) = key.texts folding := by
  have hkey := payloads_phrase folding key h
  unfold sortSlots
  rw [payloadsOf_append, payloadsOf_append, hkey]
  split <;> split <;> simp

/-- Sort keys carry the texts of their expressions; the directions carry none. -/
theorem payloads_sortKeys (items : List SortItem) (h : keysExpressible items) :
    (items.map (sortSlots folding)).flatMap payloadsOf = orderingTexts folding items := by
  induction items with
  | nil => rfl
  | cons item items ih =>
    cases item with
    | mk key ascending nullsLast =>
      simp only [keysExpressible, Bool.and_eq_true] at h
      rw [List.map_cons, List.flatMap_cons, ih h.2, payloads_sortKey folding _ _ _ h.1, orderingTexts]

theorem payloads_ordering (ordering : Option (List SortItem)) (h : isOrdering ordering) :
    payloadsOf (orderingSlots folding ordering) = orderingTexts folding (ordering.getD []) := by
  cases ordering with
  | none => rfl
  | some items =>
    simp only [isOrdering, Bool.and_eq_true] at h
    simp only [orderingSlots, payloadsOf_append, payloadsOf_keywords, payloadsOf_listed,
      payloads_sortKeys folding items h.2]
    rfl

/-- **The tokens of a tree that can be written carry its texts.** -/
theorem payloads_slots (n : Node) (h : n.wellFormed) :
    payloadsOf (n.slots folding context) = n.payloads folding := by
  cases n with
  | select list source filter keys having ordering bound =>
    simp only [Node.wellFormed, Bool.and_eq_true] at h
    obtain ⟨⟨⟨⟨⟨hsource, hlist⟩, hfilter⟩, hkeys⟩, hhaving⟩, hordering⟩ := h
    have hbound : payloadsOf (limitSlots bound) = [] := by cases bound <;> simp [limitSlots]
    simp only [Node.slots, Node.payloads, payloadsOf_append, payloadsOf_keywords,
      payloads_list folding _ _ hlist, payloads_source folding context _ hsource,
      payloads_condition folding _ _ hfilter, payloads_grouping folding _ hkeys,
      payloads_condition folding _ _ hhaving, payloads_ordering folding _ hordering, hbound,
      List.append_nil, List.nil_append]
  | selectList list => exact payloads_list folding none list h
  | table t => simp [Node.slots, Node.payloads, sourceSlots, Node.texts]
  | join kind left right condition => exact payloads_source folding context _ h
  | orderBy items => exact payloads_ordering folding (some items) h
  | groupBy keys => exact payloads_grouping folding (some keys) h
  | limit l => simp [Node.slots, limitSlots, Node.payloads, Node.texts]
  | _ => exact payloads_phrase folding _ h

end Statements

end Pushdown
