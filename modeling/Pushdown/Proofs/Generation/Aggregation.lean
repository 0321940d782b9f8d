import Mathlib.Data.List.Basic
import Pushdown.Proofs.Generation.Agreement
import Pushdown.Proofs.Postgres.Opaque
import Pushdown.Proofs.Query.Payload

/-!
# `Proofs.Generation.Aggregation` — string aggregation in PostgreSQL's text

PostgreSQL has no `GROUP_CONCAT`. Wherever the tree aggregates strings, however deep, its text calls `STRING_AGG`, and
nothing else in the text does. This is shown on the tokens of the text: a row of tokens `Aggregates` a number if it
holds no `GROUP_CONCAT` and that many calls of `STRING_AGG`. Calls are counted by the bracket behind the word, because
a unit of EXTRACT may be any word; so rows can only be put behind one another if the first does not end with the word.

## Contents

* `Sql.Token.isGroupConcat`, `Sql.stringAggCalls` — what is looked for in a text.
* `Aggregates`, `Aggregates.append` — rows of tokens, and rows behind one another.
* `Node.concatenations` — the string aggregations of a tree that are written.
* `aggregates_phrase`, `aggregates_slots` — expressions, and any node.
* `Adapter.refines_standard_generator` — the two generators, side by side.
-/

namespace Pushdown

open Sql (Token Slot Phrase Arm listed bracketed yieldAll yieldOption yieldBehind yieldArms)

/-! ## Tokens -/

namespace Sql

/-- The token is the word `GROUP_CONCAT`, in any case of its letters. -/
def Token.isGroupConcat : Token → Bool
  | .word text => Text.asciiUpper text = "GROUP_CONCAT"
  | _ => false

/-- The token is the word `STRING_AGG`. -/
def Token.isStringAgg (t : Token) : Bool := t = .word "STRING_AGG"

/-- How many calls of `STRING_AGG` there are among tokens. -/
def stringAggCalls : List Token → Nat
  | t :: u :: rest =>
    (if t.isStringAgg && u = .mark '(' then 1 else 0) + stringAggCalls (u :: rest)
  | _ => 0

/-- The token has nothing to do with string aggregation. -/
def Token.isInert (t : Token) : Bool := !t.isGroupConcat && !t.isStringAgg

/-- The calls of two rows add up, unless the first row ends with the word and the second begins with the bracket. -/
theorem stringAggCalls_append {a b : List Token} (h : ∀ t ∈ a.getLast?, ¬ t.isStringAgg) :
    stringAggCalls (a ++ b) = stringAggCalls a + stringAggCalls b := by
  induction a with
  | nil => simp [stringAggCalls]
  | cons t a ih =>
    cases a with
    | nil =>
      -- a call across the seam would begin with the last token of the first row
      have ht : t.isStringAgg = false := by simpa using h
      cases b with
      | nil => rfl
      | cons u b => simp [stringAggCalls, ht]
    | cons u a =>
      have hrest := ih (by simpa using h)
      rw [List.cons_append] at hrest
      simp only [List.cons_append, stringAggCalls, hrest]
      omega

end Sql

/-! ## Rows of tokens -/

/-- The row holds no `GROUP_CONCAT` and so many calls of `STRING_AGG`, and it does not end with that word. -/
structure Aggregates (count : Nat) (ss : List Slot) : Prop where
  clean : ∀ s ∈ ss, ¬ s.token.isGroupConcat
  calls : Sql.stringAggCalls (ss.map Slot.token) = count
  closed : ∀ s ∈ ss.getLast?, ¬ s.token.isStringAgg

/-- Every token of the row is inert. -/
def Inert (ss : List Slot) : Prop := ∀ s ∈ ss, s.token.isInert

instance (ss : List Slot) : Decidable (Inert ss) :=
  inferInstanceAs (Decidable (∀ s ∈ ss, s.token.isInert))

section Rows

variable {j k : Nat} {a b : List Slot}

/-- Two rows behind one another: both are clean, and no call lies across the seam, since the first row is closed. -/
theorem Aggregates.append (ha : Aggregates j a) (hb : Aggregates k b) : Aggregates (j + k) (a ++ b) where
  clean := by
    intro s hs
    rcases List.mem_append.mp hs with hs | hs
    · exact ha.clean s hs
    · exact hb.clean s hs
  calls := by
    have hclosed : ∀ t ∈ (a.map Slot.token).getLast?, ¬ t.isStringAgg := by
      intro t ht
      rw [List.getLast?_map, Option.mem_def, Option.map_eq_some_iff] at ht
      obtain ⟨s, hs, rfl⟩ := ht
      exact ha.closed s hs
    rw [List.map_append, Sql.stringAggCalls_append hclosed, ha.calls, hb.calls]
  closed := by
    intro s hs
    rw [List.getLast?_append] at hs
    cases hlast : b.getLast? with
    | none =>
      rw [hlast] at hs
      exact ha.closed s hs
    | some t =>
      rw [hlast] at hs
      cases hs
      exact hb.closed s hlast

theorem aggregates_nil : Aggregates 0 [] := ⟨by simp, rfl, by simp⟩

theorem aggregates_single {s : Slot} (h : s.token.isInert) : Aggregates 0 [s] := by
  simp only [Token.isInert, Bool.and_eq_true, Bool.not_eq_true'] at h
  exact ⟨by simp [h.1], rfl, by simp [h.2]⟩

theorem aggregates_of_inert (h : Inert a) : Aggregates 0 a := by
  induction a with
  | nil => exact aggregates_nil
  | cons s a ih =>
    have hs := aggregates_single (h s List.mem_cons_self)
    exact hs.append (ih fun t ht => h t (List.mem_cons_of_mem s ht))

/-- Inert tokens in front of a row. -/
theorem Aggregates.behind (hb : Aggregates k b) (ha : Inert a) : Aggregates k (a ++ b) := by
  have h := (aggregates_of_inert ha).append hb
  rwa [Nat.zero_add] at h

/-- An inert token in front of a row. -/
theorem Aggregates.cons (hb : Aggregates k b) {s : Slot} (hs : s.token.isInert) : Aggregates k (s :: b) := by
  have h := (aggregates_single hs).append hb
  rwa [Nat.zero_add] at h

/-- Inert tokens behind a row. -/
theorem Aggregates.before (ha : Aggregates k a) (hb : Inert b) : Aggregates k (a ++ b) :=
  ha.append (aggregates_of_inert hb)

theorem Aggregates.bracketed (h : Aggregates k a) : Aggregates k (bracketed .fixed a) :=
  (h.cons rfl).before (by decide)

/-- Rows that together hold so many calls. -/
inductive AggregatesAll : Nat → List (List Slot) → Prop
  | nil : AggregatesAll 0 []
  | cons {j k : Nat} {part : List Slot} {parts : List (List Slot)} (h : Aggregates j part)
      (hs : AggregatesAll k parts) : AggregatesAll (j + k) (part :: parts)

/-- Commas between the parts of a row add no call. -/
theorem AggregatesAll.listed {parts : List (List Slot)} (h : AggregatesAll k parts) :
    Aggregates k (listed .fixed parts) := by
  induction h with
  | nil => exact aggregates_nil
  | @cons j k part parts hpart hparts ih =>
    cases parts with
    | nil =>
      cases hparts
      rw [Sql.listed_singleton]
      exact hpart
    | cons next parts =>
      rw [Sql.listed_cons_cons]
      exact hpart.append (ih.cons rfl)

/-- A call of `STRING_AGG`. -/
theorem Aggregates.stringAgg (h : Aggregates k a) :
    Aggregates (k + 1) (.fixed (.word "STRING_AGG") :: Sql.bracketed .fixed a) := by
  have hopen : Aggregates 1 [.fixed (.word "STRING_AGG"), .fixed (.mark '(')] :=
    ⟨by decide, by decide, by decide⟩
  have hclose : Inert [.fixed (.mark ')')] := by decide
  have hcall := hopen.append (h.before hclose)
  rwa [Nat.add_comm] at hcall

end Rows

/-! ## The string aggregations of a tree -/

mutual

/-- The string aggregations of a tree that are written. The ordering of a string aggregation is not. -/
def Node.concatenations : Node → Nat
  | .column _ | .literal _ | .table _ | .limit _ => 0
  | .predicate p => p.concatenations
  | .scalar _ arguments => concatenationsAll arguments
  | .extract _ argument => argument.concatenations
  | .case basis branches otherwise =>
    concatenationsOption basis + concatenationsBranches branches + concatenationsOption otherwise
  | .cast argument _ => argument.concatenations
  | .aggregate _ arguments _ => concatenationsAll arguments
  | .groupConcat argument _ _ _ => argument.concatenations + 1
  | .select list source filter keys having ordering _ =>
    list.concatenations + source.concatenations + concatenationsOption filter + concatenationsKeys keys +
      concatenationsOption having + concatenationsOrdering ordering
  | .selectList list => list.concatenations
  | .join _ left right condition => left.concatenations + right.concatenations + condition.concatenations
  | .orderBy items => concatenationsItems items
  | .groupBy keys => concatenationsAll keys

def SelectList.concatenations : SelectList → Nat
  | .anyValue | .wildcard => 0
  | .expressions items => concatenationsAll items

def Predicate.concatenations : Predicate → Nat
  | .and operands | .or operands => concatenationsAll operands
  | .not operand | .isNull operand | .isNotNull operand => operand.concatenations
  | .equal left right | .notEqual left right | .less left right | .lessEqual left right =>
    left.concatenations + right.concatenations
  | .like value pattern escape =>
    value.concatenations + pattern.concatenations + concatenationsOption escape
  | .regexp value pattern => value.concatenations + pattern.concatenations
  | .between value low high => value.concatenations + low.concatenations + high.concatenations
  | .inList value candidates => value.concatenations + concatenationsAll candidates

def concatenationsAll : List Node → Nat
  | [] => 0
  | n :: ns => n.concatenations + concatenationsAll ns

def concatenationsOption : Option Node → Nat
  | none => 0
  | some n => n.concatenations

def concatenationsKeys : Option (List Node) → Nat
  | none => 0
  | some keys => concatenationsAll keys

def concatenationsBranches : List Branch → Nat
  | [] => 0
  | .mk condition result :: rest =>
    condition.concatenations + result.concatenations + concatenationsBranches rest

def concatenationsItems : List SortItem → Nat
  | [] => 0
  | .mk key _ _ :: rest => key.concatenations + concatenationsItems rest

def concatenationsOrdering : Option (List SortItem) → Nat
  | none => 0
  | some items => concatenationsItems items

end

/-! ## Phrases -/

section Phrases

variable {k : Nat} {ps : List (Phrase Slot)}

theorem inert_fixed {ts : List Token} (h : ∀ t ∈ ts, t.isInert) : Inert (ts.map .fixed) := by
  intro s hs
  obtain ⟨t, ht, rfl⟩ := List.mem_map.mp hs
  exact h t ht

theorem inert_cons {s : Slot} {ss : List Slot} (hs : s.token.isInert) (hss : Inert ss) : Inert (s :: ss) :=
  List.forall_mem_cons.mpr ⟨hs, hss⟩

@[simp] theorem isInert_mark (c : Char) : (Token.mark c).isInert = true := rfl

@[simp] theorem isInert_number (text : String) : (Token.number text).isInert = true := rfl

@[simp] theorem isInert_name (text : String) : (Token.name text).isInert = true := rfl

/-- A word that is given letter by letter need not be taken apart. -/
theorem isInert_ofList {cs : List Char}
    (hconcat : cs.map Char.toUpper ≠ ['G', 'R', 'O', 'U', 'P', '_', 'C', 'O', 'N', 'C', 'A', 'T'])
    (hagg : cs ≠ ['S', 'T', 'R', 'I', 'N', 'G', '_', 'A', 'G', 'G']) :
    (Token.word (String.ofList cs)).isInert := by
  have hword : String.ofList cs ≠ "STRING_AGG" := by
    intro h
    exact hagg (by rw [← String.toList_ofList (l := cs), h]; rfl)
  have hupper : Text.asciiUpper (String.ofList cs) ≠ "GROUP_CONCAT" := by
    intro h
    rw [Text.asciiUpper, String.toList_ofList] at h
    exact hconcat (by rw [← String.toList_ofList (l := cs.map Char.toUpper), h]; rfl)
  simp [Token.isInert, Token.isGroupConcat, Token.isStringAgg, hword, hupper]

theorem isInert_scalarName (f : ScalarFunction) : (Token.word (Enumeration.name f)).isInert := by
  cases f <;> exact isInert_ofList (by decide) (by decide)

theorem isInert_aggregateName (f : AggregateFunction) : (Token.word (Enumeration.name f)).isInert := by
  cases f <;> exact isInert_ofList (by decide) (by decide)

/-- The words that a form brings with it are inert. -/
theorem isInert_form (f : ScalarFunction) :
    (∀ name, f.form = .renamed name → (Token.word name).isInert) ∧
      (∀ unit, f.form = .interval unit → (Token.word unit).isInert) := by
  cases f <;> simp [ScalarFunction.form] <;> decide

theorem isInert_operator (o : Sql.Operator) : o.token.isInert := by
  cases o <;> decide

theorem aggregates_call {name : String} (hname : (Token.word name).isInert) (distinct : Bool)
    (h : AggregatesAll k (yieldAll .fixed ps)) :
    Aggregates k ((Phrase.call name distinct ps).yield .fixed) := by
  rw [Phrase.yield]
  refine Aggregates.cons (.bracketed (h.listed.behind ?_)) hname
  cases distinct <;> decide

theorem aggregates_binary {j : Nat} {p q : Phrase Slot} (o : Sql.Operator) (hp : Aggregates j (p.yield .fixed))
    (hq : Aggregates k (q.yield .fixed)) : Aggregates (j + k) ((Phrase.binary o p q).yield .fixed) := by
  rw [Phrase.yield]
  exact hp.append (hq.cons (isInert_operator o))

/-- A unit may be any word but one, since `FROM` follows it. -/
theorem aggregates_extract {unit : String} (hunit : ¬ (Token.word unit).isGroupConcat) {p : Phrase Slot}
    (hp : Aggregates k (p.yield .fixed)) : Aggregates k ((Phrase.extract unit p).yield .fixed) := by
  rw [Phrase.yield]
  refine Aggregates.cons (.bracketed ?_) (by decide)
  have hfrom : Aggregates 0 ((Sql.unitTokens unit).map Slot.fixed ++ [.fixed (.word "FROM")]) := by
    unfold Sql.unitTokens
    split
    · exact aggregates_single (by decide)
    · refine ⟨?_, ?_, ?_⟩
      · intro s hs
        rcases List.mem_pair.mp hs with rfl | rfl
        · exact hunit
        · decide
      · simp [Sql.stringAggCalls, Slot.token]
      · intro s hs
        obtain rfl : Slot.fixed (.word "FROM") = s := by simpa using hs
        decide
  have h := hfrom.append hp
  rwa [Nat.zero_add, List.append_assoc] at h

/-- **A call adds no string aggregation of its own.** One case for each form in which a call is written; the names
that stand in front of its arguments are inert. -/
theorem aggregates_scalar (f : ScalarFunction) (harity : ∀ n ∈ f.form.arity?, ps.length = n)
    (h : AggregatesAll k (yieldAll .fixed ps)) : Aggregates k ((f.form.phrase f ps).yield .fixed) := by
  cases hform : f.form with
  | renamed name => exact aggregates_call ((isInert_form f).1 name hform) false h
  | call => exact aggregates_call (isInert_scalarName f) false h
  | bare =>
    cases ps with
    | nil =>
      cases h
      exact aggregates_single (isInert_scalarName f)
    | cons p ps => exact aggregates_call (isInert_scalarName f) false h
  | interval unit =>
    rw [hform] at harity
    obtain ⟨date, amount, rfl⟩ := List.length_eq_two.mp (harity 2 rfl)
    obtain _ | ⟨hdate, _ | ⟨hamount, ⟨⟩⟩⟩ := h
    refine aggregates_binary .plus hdate (Aggregates.cons (.bracketed ?_) (by decide))
    exact (hamount.cons (by decide)).cons ((isInert_form f).2 unit hform)
  | between operator =>
    rw [hform] at harity
    obtain ⟨left, right, rfl⟩ := List.length_eq_two.mp (harity 2 rfl)
    obtain _ | ⟨hleft, _ | ⟨hright, ⟨⟩⟩⟩ := h
    exact (aggregates_binary operator hleft hright).bracketed
  | datePart =>
    rw [hform] at harity
    obtain ⟨date, rfl⟩ := List.length_eq_one_iff.mp (harity 1 rfl)
    -- the part is named by a string and not by a word
    have hname : Aggregates 0 ((Phrase.atom (.fixed (.string (Enumeration.name f)))).yield Slot.fixed) :=
      aggregates_single rfl
    have hboth := AggregatesAll.cons hname h
    rw [Nat.zero_add] at hboth
    exact aggregates_call (by decide) false hboth
  | epoch =>
    rw [hform] at harity
    obtain ⟨date, rfl⟩ := List.length_eq_one_iff.mp (harity 1 rfl)
    obtain _ | ⟨hdate, ⟨⟩⟩ := h
    exact aggregates_extract (by decide) hdate
  | sign =>
    rw [hform] at harity
    obtain ⟨operand, rfl⟩ := List.length_eq_one_iff.mp (harity 1 rfl)
    obtain _ | ⟨hoperand, ⟨⟩⟩ := h
    exact hoperand.bracketed.cons (by decide)

/-- No other aggregate function is written as a string aggregation, whether it takes a star, one argument, or several
behind DISTINCT. -/
theorem aggregates_aggregate (f : AggregateFunction) (distinct : Bool)
    (h : AggregatesAll k (yieldAll .fixed ps)) :
    Aggregates k ((aggregatePhrase f distinct ps).yield .fixed) := by
  unfold aggregatePhrase
  split
  next hempty =>
    rw [List.isEmpty_iff] at hempty
    subst hempty
    cases h
    exact (aggregates_of_inert (by decide)).cons (isInert_aggregateName f)
  next =>
    split
    · have hrow : Aggregates k ((Phrase.row ps).yield Slot.fixed) := h.listed.bracketed
      exact aggregates_call (isInert_aggregateName f) true (.cons hrow .nil)
    · exact aggregates_call (isInert_aggregateName f) distinct h

/-- Operands with AND or OR between them aggregate as much as they do one by one. -/
theorem aggregates_connective (operator : Sql.Operator) (h : AggregatesAll k (yieldAll .fixed ps)) :
    Aggregates k ((connectivePhrase operator ps).yield .fixed) := by
  cases ps with
  | nil =>
    cases h
    exact aggregates_nil.bracketed
  | cons first rest =>
    obtain _ | @⟨j, k, _, _, hfirst, hrest⟩ := h
    refine Aggregates.bracketed ?_
    -- operands are added on the right, one by one
    induction rest generalizing first j k with
    | nil =>
      cases hrest
      exact hfirst
    | cons next rest ih =>
      obtain _ | @⟨i, l, _, _, hnext, hrest⟩ := hrest
      rw [← Nat.add_assoc]
      exact ih _ (aggregates_binary operator hfirst hnext) hrest

end Phrases

/-! ## Leaves -/

section Leaves

theorem aggregates_number (cs : List Char) : Aggregates 0 ((numberPhrase cs).yield .fixed) := by
  unfold numberPhrase
  split
  · exact (aggregates_single rfl).cons (by decide)
  · exact (aggregates_single rfl).cons (by decide)
  · exact aggregates_single rfl

/-- A constant is no string aggregation: what it holds of the two words stands inside a string. -/
theorem aggregates_literal (l : Literal) : Aggregates 0 (l.phrase.yield .fixed) := by
  cases l with
  | null => exact aggregates_single (by decide)
  | bool value => cases value <;> exact aggregates_single (by decide)
  | date text => exact (aggregates_single rfl).cons (by decide)
  | timestamp text => exact (aggregates_single rfl).cons (by decide)
  | timestampUtc text => exact (aggregates_single rfl).cons (by decide)
  | double value =>
    rw [Literal.phrase]
    split
    · exact aggregates_number _
    · exact ((aggregates_single rfl).before (by decide)).bracketed.cons (by decide)
  | exact text => exact aggregates_number _
  | string text => exact aggregates_single rfl

theorem aggregates_column (folding : CaseFolding) (c : Column) :
    Aggregates 0 ((c.phrase folding).yield .fixed) := by
  unfold Column.phrase
  cases c.qualifier with
  | none => exact aggregates_single rfl
  | some q => exact ((aggregates_single rfl).cons rfl).cons rfl

theorem aggregates_separator (separator : Option String) :
    Aggregates 0 ((separatorPhrase separator).yield .fixed) := by
  cases separator <;> exact aggregates_single rfl

/-- The words of a type are none of the two. -/
theorem inert_type (t : CanonicalType) : Inert (t.tokens.map .fixed) := by
  have hsize : ∀ n : UInt32, Inert ((CanonicalType.sizeTokens n).map .fixed) := by
    intro n
    refine inert_fixed ?_
    simp [CanonicalType.sizeTokens]
  cases t with
  | boolean => decide
  | double => decide
  | date => decide
  | timestamp withZone => cases withZone <;> decide
  | exactNumeric precision scale =>
    refine inert_fixed ?_
    simp [CanonicalType.tokens]
    decide
  | character length charset => exact inert_cons (by decide) (hsize length)
  | maxCharacter charset => exact inert_cons (by decide) (hsize _)

end Leaves

/-! ## Expressions -/

/-- The unit of an EXTRACT is not the word `GROUP_CONCAT`. -/
def Node.unitAllowed : Node → Bool
  | .extract unit _ => !(Token.word (Text.asciiUpper unit)).isGroupConcat
  | _ => true

/-- A phrase behind its keyword, if there is one. -/
theorem aggregates_behind {k : Nat} {w : String} (hw : (Token.word w).isInert) {p : Option (Phrase Slot)}
    (h : Aggregates k (yieldOption .fixed p)) : Aggregates k (yieldBehind .fixed w p) := by
  cases p with
  | none => exact h
  | some p => exact h.cons hw

theorem aggregates_escape {escape : Option Node} (h : isEscape escape) :
    Aggregates (concatenationsOption escape) (yieldBehind .fixed "ESCAPE" (escapePhrase escape)) := by
  unfold isEscape at h
  split at h
  · exact aggregates_nil
  · exact (aggregates_single rfl).cons (by decide)
  · cases h

section Expressions

variable (folding : CaseFolding)

/-- A comparison, if the same is known of its sides. -/
theorem aggregates_comparison (operator : Sql.Operator) {left right : Node}
    (hleft : left.expressible → left.every Node.unitAllowed →
      Aggregates left.concatenations ((left.phrase folding).yield .fixed))
    (hright : right.expressible → right.every Node.unitAllowed →
      Aggregates right.concatenations ((right.phrase folding).yield .fixed))
    (h : left.expressible && right.expressible)
    (hunits : left.every Node.unitAllowed && right.every Node.unitAllowed) :
    Aggregates (left.concatenations + right.concatenations)
      ((Phrase.binary operator (left.phrase folding) (right.phrase folding)).yield .fixed) := by
  simp only [Bool.and_eq_true] at h hunits
  exact aggregates_binary operator (hleft h.1 hunits.1) (hright h.2 hunits.2)

mutual

/-- The tokens of an expression call `STRING_AGG` once for every string aggregation. -/
theorem aggregates_phrase : ∀ n : Node, n.expressible → n.every Node.unitAllowed →
    Aggregates n.concatenations ((n.phrase folding).yield .fixed)
  | .column c => fun _ _ => aggregates_column folding c
  | .literal l => fun _ _ => aggregates_literal l
  | .predicate p => by
    intro h hunits
    simp only [Node.every, Bool.and_eq_true] at hunits
    exact aggregates_predicate p h hunits.2
  | .scalar function arguments => by
    intro h hunits
    simp only [Node.expressible, Bool.and_eq_true, takes_iff] at h
    simp only [Node.every, Bool.and_eq_true] at hunits
    have harity : ∀ n ∈ function.form.arity?, (phrases folding arguments).length = n := by
      simpa only [length_phrases] using h.1
    exact aggregates_scalar function harity (aggregates_phrases arguments h.2 hunits.2)
  | .extract unit argument => by
    intro h hunits
    simp only [Node.every, Node.unitAllowed, Bool.and_eq_true, Bool.not_eq_true'] at hunits
    exact aggregates_extract (by simp [hunits.1]) (aggregates_phrase argument h hunits.2)
  | .case basis branches otherwise => by
    intro h hunits
    simp only [Node.expressible, Bool.and_eq_true] at h
    simp only [Node.every, Bool.and_eq_true] at hunits
    have hbasis := aggregates_option basis h.1.2 hunits.1.1.2
    have hbranches := aggregates_arms branches h.1.1.2 hunits.1.2
    have hotherwise := aggregates_behind (w := "ELSE") (by decide) (aggregates_option otherwise h.2 hunits.2)
    exact ((((hbasis.cons (by decide)).append hbranches).append hotherwise).before (by decide))
  | .cast argument type => by
    intro h hunits
    simp only [Node.every, Bool.and_eq_true] at hunits
    have htype : Inert (.fixed (.word "AS") :: type.tokens.map Slot.fixed) :=
      inert_cons (by decide) (inert_type type)
    exact ((aggregates_phrase argument h hunits.2).before htype).bracketed.cons (by decide)
  | .aggregate function arguments distinct => by
    intro h hunits
    simp only [Node.every, Bool.and_eq_true] at hunits
    exact aggregates_aggregate function distinct (aggregates_phrases arguments h hunits.2)
  | .groupConcat argument distinct ordering separator => by
    intro h hunits
    simp only [Node.every, Bool.and_eq_true] at hunits
    -- the ordering is not written, so further calls can only stand in the argument
    have hargument := aggregates_phrase argument h hunits.1.2
    have hboth : AggregatesAll argument.concatenations
        [(argument.phrase folding).yield Slot.fixed, (separatorPhrase separator).yield Slot.fixed] :=
      .cons hargument (.cons (aggregates_separator separator) .nil)
    refine Aggregates.stringAgg (hboth.listed.behind ?_)
    cases distinct <;> decide
  | .select .. => fun h => by cases h
  | .selectList .. => fun h => by cases h
  | .table .. => fun h => by cases h
  | .join .. => fun h => by cases h
  | .orderBy .. => fun h => by cases h
  | .groupBy .. => fun h => by cases h
  | .limit .. => fun h => by cases h

/-- **The phrase of a condition calls `STRING_AGG` once for every string aggregation of its operands.** One case for
each kind of condition; the tokens between the operands are inert. -/
theorem aggregates_predicate : ∀ p : Predicate, p.expressible → p.every Node.unitAllowed →
    Aggregates p.concatenations ((p.phrase folding).yield .fixed)
  | .and operands => by
    intro h hunits
    simp only [Predicate.expressible, Bool.and_eq_true] at h
    exact aggregates_connective .and (aggregates_phrases operands h.2 hunits)
  | .or operands => by
    intro h hunits
    simp only [Predicate.expressible, Bool.and_eq_true] at h
    exact aggregates_connective .or (aggregates_phrases operands h.2 hunits)
  | .not operand => by
    intro h hunits
    exact (aggregates_phrase operand h hunits).bracketed.cons (by decide)
  | .equal left right => by
    intro h hunits
    exact aggregates_comparison folding .equal (aggregates_phrase left) (aggregates_phrase right) h hunits
  | .notEqual left right => by
    intro h hunits
    exact aggregates_comparison folding .notEqual (aggregates_phrase left) (aggregates_phrase right) h hunits
  | .less left right => by
    intro h hunits
    exact aggregates_comparison folding .less (aggregates_phrase left) (aggregates_phrase right) h hunits
  | .lessEqual left right => by
    intro h hunits
    exact aggregates_comparison folding .lessEqual (aggregates_phrase left) (aggregates_phrase right) h hunits
  | .regexp value pattern => by
    intro h hunits
    exact aggregates_comparison folding .matches (aggregates_phrase value) (aggregates_phrase pattern) h hunits
  | .like value pattern escape => by
    intro h hunits
    simp only [Predicate.expressible, Bool.and_eq_true] at h
    simp only [Predicate.every, Bool.and_eq_true] at hunits
    have hvalue := aggregates_phrase value h.1.1 hunits.1.1
    have hpattern := aggregates_phrase pattern h.1.2 hunits.1.2
    exact (hvalue.append (hpattern.cons (by decide))).append (aggregates_escape h.2)
  | .between value low high => by
    intro h hunits
    simp only [Predicate.expressible, Bool.and_eq_true] at h
    simp only [Predicate.every, Bool.and_eq_true] at hunits
    have hvalue := aggregates_phrase value h.1.1 hunits.1.1
    have hlow := aggregates_phrase low h.1.2 hunits.1.2
    have hhigh := aggregates_phrase high h.2 hunits.2
    exact (hvalue.append (hlow.cons (by decide))).append (hhigh.cons (by decide))
  | .inList value candidates => by
    intro h hunits
    simp only [Predicate.expressible, Bool.and_eq_true] at h
    simp only [Predicate.every, Bool.and_eq_true] at hunits
    have hvalue := aggregates_phrase value h.1.2 hunits.1
    have hcandidates := aggregates_phrases candidates h.2 hunits.2
    exact hvalue.append (hcandidates.listed.bracketed.cons (by decide))
  | .isNull operand => by
    intro h hunits
    exact (aggregates_phrase operand h hunits).before (by decide)
  | .isNotNull operand => by
    intro h hunits
    exact (aggregates_phrase operand h hunits).before (by decide)

/-- Operands one by one, with the sum of their aggregations. -/
theorem aggregates_phrases : ∀ ns : List Node, allExpressible ns → everyAll Node.unitAllowed ns →
    AggregatesAll (concatenationsAll ns) (yieldAll .fixed (phrases folding ns))
  | [] => fun _ _ => .nil
  | n :: ns => by
    intro h hunits
    simp only [allExpressible, Bool.and_eq_true] at h
    simp only [everyAll, Bool.and_eq_true] at hunits
    exact .cons (aggregates_phrase n h.1 hunits.1) (aggregates_phrases ns h.2 hunits.2)

theorem aggregates_option : ∀ n : Option Node, optionExpressible n → everyOption Node.unitAllowed n →
    Aggregates (concatenationsOption n) (yieldOption .fixed (optionPhrase folding n))
  | none => fun _ _ => aggregates_nil
  | some n => by
    intro h hunits
    exact aggregates_phrase n h hunits

/-- Branches of a CASE, with the aggregations of their conditions and results. -/
theorem aggregates_arms : ∀ bs : List Branch, branchesExpressible bs → everyBranch Node.unitAllowed bs →
    Aggregates (concatenationsBranches bs) (yieldArms .fixed (armPhrases folding bs))
  | [] => fun _ _ => aggregates_nil
  | .mk condition result :: rest => by
    intro h hunits
    simp only [branchesExpressible, Bool.and_eq_true] at h
    simp only [everyBranch, Bool.and_eq_true] at hunits
    have hcondition := aggregates_phrase condition h.1.1 hunits.1.1
    have hresult := aggregates_phrase result h.1.2 hunits.1.2
    have hrest := aggregates_arms rest h.2 hunits.2
    exact ((hcondition.cons (by decide)).append (hresult.cons (by decide))).append hrest

end

end Expressions

/-! ## Select lists -/

section SelectLists

variable (folding : CaseFolding)

/-- A column directly in a select list, with its cast. -/
theorem aggregates_columnItem (c : Column) : Aggregates 0 (c.itemSlots folding) := by
  have hcolumn := aggregates_column folding c
  have hcast : ∀ {type : String}, (Token.word type).isInert →
      Aggregates 0 ((Phrase.cast (c.phrase folding) [.word type]).yield Slot.fixed) := by
    intro type htype
    have hbehind : Inert [.fixed (.word "AS"), .fixed (.word type)] :=
      inert_cons (by decide) (inert_cons htype (by decide))
    exact (hcolumn.before hbehind).bracketed.cons (by decide)
  unfold Column.itemSlots ColumnMetadata.projectionCast
  cases c.metadata.remoteType with
  | error fault => exact aggregates_nil
  | ok notes =>
    show Aggregates 0 ((ProjectionCast.ofTypeName notes.typeName).slots (c.phrase folding))
    rcases ProjectionCast.ofTypeName_cases notes.typeName with
      ⟨-, h | h⟩ | ⟨-, -, entry, hentry, h⟩ | ⟨-, -, h⟩
    · rw [h]
      exact hcast (by decide)
    · rw [h]
      have htext : Inert [.fixed (.word "AS"), .fixed (.word "VARCHAR")] := by decide
      exact (((aggregates_single rfl).before htext).bracketed.cons (by decide)).before (by decide)
    · have hserial : ∀ entry ∈ ProjectionCast.serialTypes, (Token.word entry.2).isInert := by decide
      rw [h]
      exact hcast (hserial entry hentry)
    · rw [h]
      exact hcolumn

theorem aggregates_item (n : Node) (h : n.projectable) (hunits : n.every Node.unitAllowed) :
    Aggregates n.concatenations (n.itemSlots folding) := by
  cases n with
  | column c => exact aggregates_columnItem folding c
  | _ => exact aggregates_phrase folding _ h hunits

theorem aggregates_items (ns : List Node) (h : ns.all (·.projectable))
    (hunits : everyAll Node.unitAllowed ns) :
    AggregatesAll (concatenationsAll ns) (ns.map (·.itemSlots folding)) := by
  induction ns with
  | nil => exact .nil
  | cons n ns ih =>
    simp only [List.all_cons, everyAll, Bool.and_eq_true] at h hunits
    exact .cons (aggregates_item folding n h.1 hunits.1) (ih h.2 hunits.2)

theorem aggregates_columns (columns : List Column) :
    AggregatesAll 0 (columns.map (·.itemSlots folding)) := by
  induction columns with
  | nil => exact .nil
  | cons c columns ih => exact .cons (aggregates_columnItem folding c) ih

/-- A select list, with the aggregations of its items; what stands for any value or for `*` has none. -/
theorem aggregates_list (source : Option Node) (list : SelectList) (h : list.wellFormed source)
    (hunits : list.every Node.unitAllowed) : Aggregates list.concatenations (list.slots folding source) := by
  cases list with
  | anyValue => exact aggregates_single rfl
  | wildcard =>
    cases source with
    | none => exact aggregates_single rfl
    | some node =>
      simp only [SelectList.slots, wildcardSlots]
      split
      · exact aggregates_single rfl
      · exact (aggregates_columns folding _).listed
  | expressions items =>
    simp only [SelectList.wellFormed, Bool.and_eq_true] at h
    exact (aggregates_items folding items h.2 hunits).listed

end SelectLists

/-! ## Statements -/

section Statements

variable (folding : CaseFolding) (context : GenerationContext)

theorem isInert_pathTokens (names : List String) : ∀ t ∈ Sql.pathTokens names, t.isInert := by
  induction names with
  | nil => simp [Sql.pathTokens]
  | cons name names ih =>
    cases names with
    | nil => simp [Sql.pathTokens]
    | cons next names => simpa [Sql.pathTokens] using ih

/-- A table is written by names between quotes, which are no words. -/
theorem inert_table (t : Table) : Inert ((t.tokens folding context).map .fixed) := by
  refine inert_fixed ?_
  unfold Table.tokens
  intro u hu
  rcases List.mem_append.mp hu with hu | hu
  · exact isInert_pathTokens _ u hu
  · split at hu
    · rcases List.mem_pair.mp hu with rfl | rfl
      · decide
      · rfl
    · cases hu

/-- A FROM clause: what its tables are called is inert. -/
theorem aggregates_source (n : Node) (h : n.joinsTables) (hunits : n.every Node.unitAllowed) :
    Aggregates n.concatenations (sourceSlots folding context n) := by
  induction n using Node.source_induction with
  | table t => exact aggregates_of_inert (inert_table folding context t)
  | join kind left right condition hleft hright =>
    simp only [Node.joinsTables, Bool.and_eq_true] at h
    simp only [Node.every, Bool.and_eq_true] at hunits
    have hl := hleft h.1.1 hunits.1.1.2
    have hr := hright h.1.2 hunits.1.2
    have hc := aggregates_phrase folding condition h.2 hunits.2
    have hkind : Inert (keywords kind.keywords) := by cases kind <;> decide
    have hon : Inert (keywords ["ON"]) := by decide
    cases right with
    | table t => exact (((hl.before hkind).append hr).before hon).append hc
    | join kind' left' right' condition' =>
      rw [sourceSlots]
      · exact (((hl.before hkind).append hr.bracketed).before hon).append hc
      · intro t ht
        cases ht
    | _ => cases h.1.2
  | other n hn =>
    rw [Node.joinsTables_eq_false hn] at h
    cases h

theorem aggregates_condition (w : String) (hw : (Token.word w).isInert) (n : Option Node)
    (h : optionExpressible n) (hunits : everyOption Node.unitAllowed n) :
    Aggregates (concatenationsOption n) (conditionSlots folding w n) := by
  cases n with
  | none => exact aggregates_nil
  | some n => exact (aggregates_phrase folding n h hunits).cons hw

/-- The keys of a grouping, with their aggregations. -/
theorem aggregates_grouping (keys : Option (List Node)) (h : isGrouping keys)
    (hunits : everyKeys Node.unitAllowed keys) :
    Aggregates (concatenationsKeys keys) (groupingSlots folding keys) := by
  cases keys with
  | none => exact aggregates_nil
  | some keys =>
    simp only [isGrouping, Bool.and_eq_true] at h
    have hkeys := aggregates_phrases folding keys h.2 hunits
    rw [yieldAll_phrases] at hkeys
    exact hkeys.listed.behind (by decide)

theorem aggregates_sortKey (key : Node) (ascending nullsLast : Bool) (h : key.expressible)
    (hunits : key.every Node.unitAllowed) :
    Aggregates key.concatenations (sortSlots folding (.mk key ascending nullsLast)) := by
  refine ((aggregates_phrase folding key h hunits).before ?_).before ?_
  · cases ascending <;> decide
  · cases ascending <;> cases nullsLast <;> decide

/-- Sort keys one by one; the direction behind each is inert. -/
theorem aggregates_sortKeys (items : List SortItem) (h : keysExpressible items)
    (hunits : everyItem Node.unitAllowed items) :
    AggregatesAll (concatenationsItems items) (items.map (sortSlots folding)) := by
  induction items with
  | nil => exact .nil
  | cons item items ih =>
    obtain ⟨key, ascending, nullsLast⟩ := item
    simp only [keysExpressible, everyItem, Bool.and_eq_true] at h hunits
    exact .cons (aggregates_sortKey folding key ascending nullsLast h.1 hunits.1) (ih h.2 hunits.2)

theorem aggregates_ordering (ordering : Option (List SortItem)) (h : isOrdering ordering)
    (hunits : everyOrdering Node.unitAllowed ordering) :
    Aggregates (concatenationsOrdering ordering) (orderingSlots folding ordering) := by
  cases ordering with
  | none => exact aggregates_nil
  | some items =>
    simp only [isOrdering, Bool.and_eq_true] at h
    exact (aggregates_sortKeys folding items h.2 hunits).listed.behind (by decide)

/-- The limit of a statement is written in words and numbers. -/
theorem inert_limit (bound : Option Limit) : Inert (limitSlots bound) := by
  cases bound with
  | none => decide
  | some l =>
    refine inert_fixed ?_
    unfold limitTokens
    intro t ht
    rcases List.mem_append.mp ht with ht | ht
    · rcases List.mem_pair.mp ht with rfl | rfl
      · decide
      · rfl
    · split at ht
      · rcases List.mem_pair.mp ht with rfl | rfl
        · decide
        · rfl
      · cases ht

/-- The tokens of any node that can be written call `STRING_AGG` once for every string aggregation. -/
theorem aggregates_slots (n : Node) (h : n.wellFormed) (hunits : n.every Node.unitAllowed) :
    Aggregates n.concatenations (n.slots folding context) := by
  cases n with
  | select list source filter keys having ordering bound =>
    simp only [Node.wellFormed, Bool.and_eq_true] at h
    simp only [Node.every, Bool.and_eq_true] at hunits
    obtain ⟨⟨⟨⟨⟨hsource, hlist⟩, hfilter⟩, hkeys⟩, hhaving⟩, hordering⟩ := h
    obtain ⟨⟨⟨⟨⟨⟨-, ulist⟩, usource⟩, ufilter⟩, ukeys⟩, uhaving⟩, uordering⟩ := hunits
    have hselect : Inert (keywords ["SELECT"]) := by decide
    have hfrom : Inert (keywords ["FROM"]) := by decide
    have hitems := ((aggregates_list folding (some source) list hlist ulist).behind hselect).before hfrom
    have htables := hitems.append (aggregates_source folding context source hsource usource)
    have hwhere := htables.append (aggregates_condition folding "WHERE" (by decide) filter hfilter ufilter)
    have hgroups := hwhere.append (aggregates_grouping folding keys hkeys ukeys)
    have hconditions := hgroups.append
      (aggregates_condition folding "HAVING" (by decide) having hhaving uhaving)
    have hsorted := hconditions.append (aggregates_ordering folding ordering hordering uordering)
    exact hsorted.before (inert_limit bound)
  | selectList list =>
    simp only [Node.every, Bool.and_eq_true] at hunits
    exact aggregates_list folding none list h hunits.2
  | table t => exact aggregates_of_inert (inert_table folding context t)
  | join kind left right condition => exact aggregates_source folding context _ h hunits
  | orderBy items =>
    simp only [Node.every, Bool.and_eq_true] at hunits
    exact aggregates_ordering folding (some items) h hunits.2
  | groupBy keys =>
    simp only [Node.every, Bool.and_eq_true] at hunits
    exact aggregates_grouping folding (some keys) h hunits.2
  | limit l => exact aggregates_of_inert (inert_limit (some l))
  | _ => exact aggregates_phrase folding _ h hunits

end Statements

/-! ## The two generators -/

/-- **PostgreSQL's generator refines the standard one.** A tree of ordinary nodes is written by both in the same way,
with the same refusals and the same events. If the texts that are taken as they stand are plain, dates among them with
no quote that looks escaped, and no unit is the word `GROUP_CONCAT`, a text that is written holds no such word in any
case of its letters outside names and strings, and it calls `STRING_AGG` once for every string aggregation of the tree,
at whatever depth. -/
theorem Adapter.refines_standard_generator (a : Adapter) (context : GenerationContext) (n : Node) :
    (n.every Node.ordinary → a.compile context n = (Generator.standard a.dialect context).generate n) ∧
    (n.plain → n.every Node.unitAllowed → ∀ sql, (a.compile context n).result = .ok sql →
      ∃ tokens, Sql.lex sql.toList = some tokens ∧ (∀ t ∈ tokens, ¬ t.isGroupConcat) ∧
        Sql.stringAggCalls tokens = n.concatenations) := by
  refine ⟨generate_agrees a.folding context n, ?_⟩
  intro hplain hunits sql hsql
  have hwritten : n.wellFormed := (a.exists_compile_iff context n).mp ⟨sql, hsql⟩
  have haggregates := aggregates_slots a.folding context n hwritten hunits
  refine ⟨_, Adapter.lex_compile context hplain hsql, ?_, haggregates.calls⟩
  intro t ht
  obtain ⟨s, hs, rfl⟩ := List.mem_map.mp ht
  exact haggregates.clean s hs

/-- String aggregation inside string aggregation, with the word in a separator, in an ordering and between the quotes
of a date, and a unit that is named like the call. -/
theorem Adapter.nested_aggregation_is_rewritten :
    let a : Adapter := { properties := { entries := [] }, filter := ⟨.convertToUpper, false⟩ }
    let inner := Node.groupConcat (.literal (.string "GROUP_CONCAT(")) true none (some "' GROUP_CONCAT('")
    let outer := Node.groupConcat (.cast (.extract "string_agg" inner) .date) false
      (some [.mk (.groupConcat (.literal .null) false none none) true true]) none
    let n := Node.predicate (.equal outer (.literal (.date "' GROUP_CONCAT('")))
    n.plain ∧ n.every Node.unitAllowed ∧
    ∃ sql tokens, (a.compile {} n).result = .ok sql ∧ Sql.lex sql.toList = some tokens ∧
      (∀ t ∈ tokens, ¬ t.isGroupConcat) ∧ Sql.stringAggCalls tokens = 2 := by
  intro a inner outer n
  have hplain : n.plain := by decide +kernel
  have hunits : n.every Node.unitAllowed := by decide +kernel
  obtain ⟨sql, hsql⟩ := (a.exists_compile_iff {} n).mpr (by decide +kernel)
  obtain ⟨tokens, hlex, hclean, hcalls⟩ := (refines_standard_generator a {} n).2 hplain hunits sql hsql
  exact ⟨hplain, hunits, sql, tokens, hsql, hlex, hclean, hcalls⟩

/-- A backslash keeps the quote of a date from being doubled, and a unit is taken as it stands: with either of them, a
text of the query ends up outside quotes. -/
theorem Adapter.group_concat_outside_quotes :
    let a : Adapter := { properties := { entries := [] }, filter := ⟨.convertToUpper, false⟩ }
    let concat := Node.groupConcat (.literal (.string "x")) false none none
    let dated := Node.predicate (.equal concat (.literal (.date "\\' GROUP_CONCAT --")))
    let parted := Node.predicate (.equal concat (.extract "'" (.literal (.string "GROUP_CONCAT --"))))
    dated.every Node.unitAllowed ∧ parted.every Node.unitAllowed ∧
    (∃ sql, (a.compile {} dated).result.toOption = some sql ∧
      ((Sql.lex sql.toList).getD []).contains (.word "GROUP_CONCAT")) ∧
    ∃ sql, (a.compile {} parted).result.toOption = some sql ∧
      ((Sql.lex sql.toList).getD []).contains (.word "GROUP_CONCAT") := by
  intro a concat dated parted
  refine ⟨by decide +kernel, by decide +kernel, ?_, ?_⟩
  · exact ⟨"STRING_AGG(E'x', ',') = DATE '\\' GROUP_CONCAT --'", by decide +kernel, by decide +kernel⟩
  · exact ⟨"STRING_AGG(E'x', ',') = EXTRACT(' FROM E'GROUP_CONCAT --')", by decide +kernel, by decide +kernel⟩

end Pushdown
