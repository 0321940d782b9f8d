import Pushdown.Proofs.Query.Payload

/-!
# `Proofs.Query.Frame` — the tokens of a query but for its texts

Two trees of the same shape have the same tokens at the same places, but for the texts that the tokens carry. It is
enough to compare each tree with itself after its texts are blanked out.

## Contents

* `framed_phrase` — the phrase of an expression is that of the expression without its texts.
* `framesOf` — tokens without the texts that they carry.
* `frames_slots` — the tokens of any node are those of the node without its texts.
-/

namespace Pushdown

open Sql (Token Slot Phrase Arm listed bracketed mapAll mapOption mapArms)

/-! ## Phrases -/

/-- The phrase without the texts that its leaves carry. -/
abbrev Sql.Phrase.framed (p : Phrase Slot) : Phrase Slot := p.map Slot.frame

section Phrases

variable {f : ScalarFunction}

/-- The form of a call does not depend on the texts inside its arguments. -/
theorem framed_scalar (form : ScalarForm) (ps : List (Phrase Slot)) :
    (form.phrase f ps).framed = form.phrase f (mapAll Slot.frame ps) := by
  cases form with
  | renamed name => simp [ScalarForm.phrase, Phrase.map]
  | call => simp [ScalarForm.phrase, Phrase.map]
  | bare => cases ps <;> simp [ScalarForm.phrase, Phrase.map, mapAll, Slot.frame]
  | interval unit =>
    rcases ps with _ | ⟨_, _ | ⟨_, _ | ⟨_, _⟩⟩⟩ <;> simp [ScalarForm.phrase, Phrase.map, mapAll]
  | between operator =>
    rcases ps with _ | ⟨_, _ | ⟨_, _ | ⟨_, _⟩⟩⟩ <;> simp [ScalarForm.phrase, Phrase.map, mapAll]
  | datePart =>
    rcases ps with _ | ⟨_, _ | ⟨_, _⟩⟩ <;> simp [ScalarForm.phrase, Phrase.map, mapAll, Slot.frame]
  | epoch =>
    rcases ps with _ | ⟨_, _ | ⟨_, _⟩⟩ <;> simp [ScalarForm.phrase, Phrase.map, mapAll]
  | sign =>
    rcases ps with _ | ⟨_, _ | ⟨_, _⟩⟩ <;> simp [ScalarForm.phrase, Phrase.map, mapAll]

/-- How many arguments there are decides the form of an aggregate function, not what is in them. -/
theorem framed_aggregate (function : AggregateFunction) (distinct : Bool) (ps : List (Phrase Slot)) :
    (aggregatePhrase function distinct ps).framed =
      aggregatePhrase function distinct (mapAll Slot.frame ps) := by
  have hempty : (mapAll Slot.frame ps).isEmpty = ps.isEmpty := by cases ps <;> rfl
  have hlength : (mapAll Slot.frame ps).length = ps.length := by simp [Sql.mapAll_eq_map]
  unfold aggregatePhrase
  rw [hempty, hlength]
  split
  · rfl
  · split <;> simp [Phrase.map, mapAll]

/-- Joining operands by AND or OR commutes with taking their texts away. -/
theorem framed_connective (operator : Sql.Operator) (ps : List (Phrase Slot)) :
    (connectivePhrase operator ps).framed = connectivePhrase operator (mapAll Slot.frame ps) := by
  cases ps with
  | nil => simp [connectivePhrase, Phrase.map, mapAll]
  | cons first rest =>
    suffices h : ∀ left : Phrase Slot,
        (rest.foldl (fun left right => .binary operator left right) left).framed =
          (mapAll Slot.frame rest).foldl (fun left right => .binary operator left right) left.framed by
      simpa [connectivePhrase, Phrase.map, mapAll] using h first
    induction rest with
    | nil => simp [mapAll]
    | cons next rest ih =>
      intro left
      simp [ih, Phrase.map, mapAll]

end Phrases

theorem framed_literal (l : Literal) : l.phrase.framed = l.erased.phrase.framed := by
  cases l <;> rfl

theorem framed_column (folding : CaseFolding) (c : Column) :
    (c.phrase folding).framed = (c.erased.phrase folding).framed := by
  have hqualifier : c.erased.qualifier = c.qualifier := rfl
  unfold Column.phrase
  rw [hqualifier]
  cases c.qualifier <;> rfl

theorem framed_separator (separator : Option String) :
    (separatorPhrase separator).framed = (separatorPhrase (separator.map fun _ => "")).framed := by
  cases separator <;> rfl

/-- The escape of a LIKE is one token, whatever its text. -/
theorem framed_escape (escape : Option Node) :
    mapOption Slot.frame (escapePhrase escape) =
      mapOption Slot.frame (escapePhrase (erasedOption escape)) := by
  cases escape with
  | none => rfl
  | some n =>
    cases n with
    | literal l => cases l <;> rfl
    | _ => rfl

section Expressions

variable (folding : CaseFolding)

mutual

/-- An expression has the phrase of the expression without its texts, but for these. -/
theorem framed_phrase : ∀ n : Node, (n.phrase folding).framed = (n.erased.phrase folding).framed
  | .column c => framed_column folding c
  | .literal l => framed_literal l
  | .predicate p => framed_predicate p
  | .scalar function arguments => by
    simp only [Node.phrase, Node.erased, framed_scalar, framed_phrases arguments]
  | .extract _ argument => by simp [Node.phrase, Node.erased, Phrase.map, framed_phrase argument]
  | .case basis branches otherwise => by
    simp [Node.phrase, Node.erased, Phrase.map, framed_option basis, framed_arms branches,
      framed_option otherwise]
  | .cast argument _ => by simp [Node.phrase, Node.erased, Phrase.map, framed_phrase argument]
  | .aggregate _ arguments _ => by
    simp only [Node.phrase, Node.erased, framed_aggregate, framed_phrases arguments]
  | .groupConcat argument _ _ separator => by
    simp [Node.phrase, Node.erased, Phrase.map, mapAll, framed_phrase argument,
      framed_separator separator]
  | .select _ _ _ _ _ _ _ | .selectList _ | .table _ | .join _ _ _ _ | .orderBy _ | .groupBy _
  | .limit _ => by simp [Node.phrase, Node.erased]

/-- **The frame of a condition's phrase is that of the condition without its texts.** -/
theorem framed_predicate : ∀ p : Predicate,
    (p.phrase folding).framed = (p.erased.phrase folding).framed
  | .and operands | .or operands => by
    simp only [Predicate.phrase, Predicate.erased, framed_connective, framed_phrases operands]
  | .not operand | .isNull operand | .isNotNull operand => by
    simp [Predicate.phrase, Predicate.erased, Phrase.map, framed_phrase operand]
  | .equal left right | .notEqual left right | .less left right | .lessEqual left right
  | .regexp left right => by
    simp [Predicate.phrase, Predicate.erased, Phrase.map, framed_phrase left, framed_phrase right]
  | .like value pattern escape => by
    simp [Predicate.phrase, Predicate.erased, Phrase.map, framed_phrase value, framed_phrase pattern,
      framed_escape escape]
  | .between value low high => by
    simp [Predicate.phrase, Predicate.erased, Phrase.map, framed_phrase value, framed_phrase low,
      framed_phrase high]
  | .inList value candidates => by
    simp [Predicate.phrase, Predicate.erased, Phrase.map, framed_phrase value,
      framed_phrases candidates]

theorem framed_phrases : ∀ ns : List Node,
    mapAll Slot.frame (phrases folding ns) = mapAll Slot.frame (phrases folding (erasedAll ns))
  | [] => rfl
  | n :: ns => by simp [phrases, erasedAll, mapAll, framed_phrase n, framed_phrases ns]

theorem framed_option : ∀ n : Option Node, mapOption Slot.frame (optionPhrase folding n) =
    mapOption Slot.frame (optionPhrase folding (erasedOption n))
  | none => rfl
  | some n => by simp [optionPhrase, erasedOption, mapOption, framed_phrase n]

theorem framed_arms : ∀ bs : List Branch, mapArms Slot.frame (armPhrases folding bs) =
    mapArms Slot.frame (armPhrases folding (erasedBranches bs))
  | [] => rfl
  | .mk condition result :: rest => by
    simp [armPhrases, erasedBranches, mapArms, framed_phrase condition, framed_phrase result,
      framed_arms rest]

end

end Expressions

/-! ## Tokens -/

/-- Tokens without the texts that they carry. -/
def framesOf (ss : List Slot) : List Slot := ss.map Slot.frame

section Frames

@[simp] theorem framesOf_append (ss rest : List Slot) :
    framesOf (ss ++ rest) = framesOf ss ++ framesOf rest := List.map_append

@[simp] theorem framesOf_listed (parts : List (List Slot)) :
    framesOf (listed .fixed parts) = listed .fixed (parts.map framesOf) :=
  (Sql.listed_map Slot.frame Slot.fixed parts).symm

@[simp] theorem framesOf_bracketed (inner : List Slot) :
    framesOf (bracketed .fixed inner) = bracketed .fixed (framesOf inner) :=
  (Sql.bracketed_map Slot.frame Slot.fixed inner).symm

theorem framesOf_yield (p : Phrase Slot) : framesOf (p.yield .fixed) = p.framed.yield .fixed :=
  (Sql.yield_map Slot.frame Slot.fixed p).symm

end Frames

section Statements

variable (folding : CaseFolding) (context : GenerationContext)

theorem frames_expression (n : Node) :
    framesOf (n.expressionSlots folding) = framesOf (n.erased.expressionSlots folding) := by
  rw [framesOf_yield, framesOf_yield, framed_phrase]

/-! ### Select lists -/

/-- The name of a column has no part in its cast. -/
theorem projectionCast_erased (c : ColumnMetadata) :
    c.erased.projectionCast.toOption = c.projectionCast.toOption := by
  have hremote : c.erased.remoteType = c.remoteType := rfl
  unfold ColumnMetadata.projectionCast
  rw [hremote]
  cases c.remoteType <;> rfl

theorem castFree_erased (c : ColumnMetadata) : c.erased.castFree = c.castFree := by
  have hcast := projectionCast_erased c
  unfold ColumnMetadata.castFree
  cases h : c.projectionCast <;> cases h' : c.erased.projectionCast <;>
    simp_all [Except.toOption]

/-- How a column is written in a select list depends on its notes, which are kept, and not on its name. -/
theorem frames_columnItem (c : Column) :
    framesOf (c.itemSlots folding) = framesOf (c.erased.itemSlots folding) := by
  have hcast := projectionCast_erased c.metadata
  have hcolumn := framed_column folding c
  unfold Column.itemSlots
  cases h : c.metadata.projectionCast with
  | error fault => cases h' : c.erased.metadata.projectionCast <;> simp_all [Except.toOption, Column.erased]
  | ok cast =>
    cases h' : c.erased.metadata.projectionCast with
    | error fault => simp_all [Except.toOption, Column.erased]
    | ok cast' =>
      have heq : cast' = cast := by simp_all [Except.toOption, Column.erased]
      subst heq
      cases cast' <;> simp [ProjectionCast.slots, framesOf_yield, Phrase.map, hcolumn]

theorem frames_item (n : Node) :
    framesOf (n.itemSlots folding) = framesOf (n.erased.itemSlots folding) := by
  cases n with
  | column c => exact frames_columnItem folding c
  | _ => exact frames_expression folding _

/-- Without texts, a FROM clause has the same columns in the same order. -/
theorem fromColumns_erased (qualified : Bool) (n : Node) :
    n.erased.fromColumns qualified = (n.fromColumns qualified).map (·.erased) := by
  induction n using Node.source_induction with
  | table t =>
    simp only [Node.erased, Node.fromColumns, Table.erased, List.map_map]
    rfl
  | join kind left right condition hleft hright =>
    simp [Node.erased, Node.fromColumns, hleft, hright]
  | other n hn =>
    rw [Node.fromColumns_eq_nil hn, Node.fromColumns_eq_nil ((isRelation_erased n).trans hn), List.map_nil]

/-- Whether `*` is written out depends on the notes of the columns, which are kept. -/
theorem frames_wildcard (columns : List Column) :
    framesOf (wildcardSlots folding columns) =
      framesOf (wildcardSlots folding (columns.map (·.erased))) := by
  have hfree : (columns.map (·.erased)).all (·.metadata.castFree) =
      columns.all (·.metadata.castFree) := by
    simp [List.all_map, Function.comp_def, Column.erased, castFree_erased]
  unfold wildcardSlots
  rw [hfree]
  split
  · rfl
  · simp [Function.comp_def, ← frames_columnItem]

/-- A select list has the frame that it has without its texts, over the FROM clause without its texts. -/
theorem frames_list (source : Option Node) (list : SelectList) :
    framesOf (list.slots folding source) =
      framesOf (list.erased.slots folding (erasedOption source)) := by
  cases list with
  | anyValue => rfl
  | wildcard =>
    cases source with
    | none => rfl
    | some node =>
      have hjoin : node.erased.isJoin = node.isJoin := by cases node <;> rfl
      simp only [SelectList.erased, SelectList.slots, erasedOption, hjoin, fromColumns_erased,
        ← frames_wildcard]
  | expressions items =>
    simp only [SelectList.erased, SelectList.slots, framesOf_listed, erasedAll_eq_map, List.map_map,
      Function.comp_def, ← frames_item]

/-! ### Other clauses -/

/-- A FROM clause has the frame that it has without the texts of its conditions: tables and joins stay. -/
theorem frames_source (n : Node) :
    framesOf (sourceSlots folding context n) = framesOf (sourceSlots folding context n.erased) := by
  induction n using Node.source_induction with
  | table t => rfl
  | join kind left right condition hleft hright =>
    have hcondition := frames_expression folding condition
    cases right with
    | table t =>
      simp only [Node.erased, sourceSlots, framesOf_append, hleft, hcondition]
      rfl
    | _ =>
      simp only [Node.erased, sourceSlots, framesOf_append, framesOf_bracketed] at hright ⊢
      simp only [hleft, hright, hcondition]
  | other n hn =>
    rw [sourceSlots_eq_nil folding hn, sourceSlots_eq_nil folding ((isRelation_erased n).trans hn)]

theorem frames_condition (keyword : String) (n : Option Node) :
    framesOf (conditionSlots folding keyword n) =
      framesOf (conditionSlots folding keyword (erasedOption n)) := by
  cases n with
  | none => rfl
  | some n => simp only [conditionSlots, erasedOption, framesOf_append, ← frames_expression]

theorem frames_grouping (keys : Option (List Node)) :
    framesOf (groupingSlots folding keys) = framesOf (groupingSlots folding (erasedKeys keys)) := by
  cases keys with
  | none => rfl
  | some keys =>
    simp only [groupingSlots, erasedKeys, framesOf_append, framesOf_listed, erasedAll_eq_map, List.map_map,
      Function.comp_def, ← frames_expression]

theorem frames_sortKeys (items : List SortItem) :
    (items.map (sortSlots folding)).map framesOf =
      ((erasedItems items).map (sortSlots folding)).map framesOf := by
  induction items with
  | nil => rfl
  | cons item items ih =>
    cases item with
    | mk key ascending nullsLast =>
      simp only [erasedItems, List.map_cons, sortSlots, framesOf_append, ← frames_expression]
      rw [ih]

theorem frames_ordering (ordering : Option (List SortItem)) :
    framesOf (orderingSlots folding ordering) =
      framesOf (orderingSlots folding (erasedOrdering ordering)) := by
  cases ordering with
  | none => rfl
  | some items =>
    simp only [orderingSlots, erasedOrdering, framesOf_append, framesOf_listed]
    rw [frames_sortKeys]

/-- **The tokens of a tree are those of the tree without its texts, but for these.** -/
theorem frames_slots (n : Node) :
    framesOf (n.slots folding context) = framesOf (n.erased.slots folding context) := by
  cases n with
  | select list source filter keys having ordering bound =>
    have hlist := frames_list folding (some source) list
    rw [erasedOption] at hlist
    simp only [Node.slots, Node.erased, framesOf_append, hlist, ← frames_source, ← frames_condition,
      ← frames_grouping, ← frames_ordering]
  | selectList list => exact frames_list folding none list
  | table t => rfl
  | join kind left right condition => exact frames_source folding context _
  | orderBy items => exact frames_ordering folding (some items)
  | groupBy keys => exact frames_grouping folding (some keys)
  | limit l => rfl
  | _ => exact frames_expression folding _

end Statements

end Pushdown
