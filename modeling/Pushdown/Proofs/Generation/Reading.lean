import Pushdown.Proofs.Query.Phrase
import Pushdown.Proofs.Sql.Reading

/-!
# `Proofs.Generation.Reading` — PostgreSQL reads a generated expression as the phrase of its tree

Whatever expression the generator writes, its text falls into the tokens of the phrase that the tree stands for.
Texts that are escaped may hold anything; those that are taken as they stand have to be plain.

## Contents

* `spelt_sqlName` — types inside a cast.
* `reads_literal`, `reads_column`, `reads_scalar`, `reads_aggregate` — the parts of expressions.
* `reads_expr` — expressions, by recursion over their tree.
-/

namespace Pushdown

open Sql

/-! ## Numbers and types -/

theorem spelt_intText (n : Nat) : Spelt [.word (intText n)] [.number (intText n)] := by
  have htext : intChars n = Nat.toDigits 10 n := by simp [intChars]
  have hnumeral : Numeral (Nat.toDigits 10 n) :=
    .mk _ [] [] (by simp) (isDigits_toDigits n) rfl rfl
  refine spelt_lexeme ?_
  simpa [Lexeme.chars, intText, htext] using spells_numeral hnumeral

/-- A text that is printed as one word reads like the lexemes with the same characters. -/
theorem spelt_of_chars {text : String} {ls : List Lexeme} {ts : List Token} (h : Spelt ls ts)
    (hchars : text.toList = Lexeme.allChars ls) : Spelt [.word text] ts := by
  refine spelt_lexeme ?_
  rw [Lexeme.chars, hchars]
  exact h

/-- The name of a type is printed as one word and reads as several tokens: words, and its numbers between brackets. -/
theorem spelt_sqlName (t : CanonicalType) : Spelt [.word t.sqlName] t.tokens := by
  have hsize : ∀ n : UInt32, Spelt [.word ("VARCHAR(" ++ wordText n ++ ")")]
      (.word "VARCHAR" :: CanonicalType.sizeTokens n) := by
    intro n
    have h := (spelt_word (w := "VARCHAR") (by decide)).bracket (spelt_intText n.toNat)
    exact spelt_of_chars h (by simp [wordText, parenthesised, Lexeme.chars])
  cases t with
  | exactNumeric p s =>
    have h := (spelt_word (w := "DECIMAL") (by decide)).bracket
      ((spelt_intText p.toNat).comma (spelt_intText s.toNat).behind_blank)
    exact spelt_of_chars h (by simp [CanonicalType.sqlName, wordText, parenthesised, Lexeme.chars])
  | character n charset => exact hsize n
  | maxCharacter charset => exact hsize maxLength
  | double => exact spelt_of_chars (spelt_words ["DOUBLE", "PRECISION"] (by decide)) rfl
  | timestamp zoned =>
    cases zoned with
    | false => exact spelt_word (by decide)
    | true =>
      exact spelt_of_chars (spelt_words ["TIMESTAMP", "WITH", "TIME", "ZONE"] (by decide)) rfl
  | boolean => exact spelt_word (by decide)
  | date => exact spelt_word (by decide)

/-! ## Leaves -/

/-- The phrase of a node as it is read. -/
abbrev Sql.Phrase.read (p : Phrase Slot) : Phrase Token := p.map Slot.token

/-- A number with a sign reads as a sign in front of a number. -/
theorem reads_numberPhrase {cs : List Char} (h : Numeral (unsigned cs)) :
    Reads (.number (String.ofList cs)) (numberPhrase cs).read := by
  unfold numberPhrase
  split
  next rest => exact reads_signed h true
  next rest => exact reads_signed h false
  next hminus hplus =>
    have hcs : unsigned cs = cs := by
      unfold unsigned
      split
      next rest => exact absurd rfl (hplus rest)
      next rest => exact absurd rfl (hminus rest)
      · rfl
    rw [hcs] at h ⊢
    exact reads_numeral h

theorem reads_double (x : Binary64) :
    Reads (.number (doubleStyle.format x)) (numberPhrase (doubleStyle.chars x)).read := by
  refine reads_numberPhrase ?_
  obtain ⟨cs, hcs, htext⟩ := chars_doubleStyle x
  rw [htext]
  split
  · exact hcs
  · rwa [unsigned_of_numeral hcs]

/-- A constant reads as its phrase. Strings are escaped and need no condition; the text of a number or a date is taken
as it stands, so that it has to be plain. -/
theorem reads_literal (folding : CaseFolding) {l : Literal} (h : l.plain) :
    Reads (literalExpr (.postgres folding) l) l.phrase.read := by
  cases l with
  | null => exact reads_bare (w := "NULL") (by decide)
  | bool value =>
    cases value with
    | false => exact reads_bare (w := "false") (by decide)
    | true => exact reads_bare (w := "true") (by decide)
  | date text => exact reads_typed (w := "DATE") (by decide) (of_decide_eq_true h)
  | timestamp text => exact reads_typed (w := "TIMESTAMP") (by decide) (of_decide_eq_true h)
  | timestampUtc text => exact reads_typed (w := "TIMESTAMP") (by decide) (of_decide_eq_true h)
  | double x =>
    unfold literalExpr doubleExpr Literal.phrase
    dsimp only
    split
    · exact reads_double x
    · have hname : '\'' ∉ (nonFiniteName x).toList := by
        unfold nonFiniteName
        split
        · decide
        · split <;> decide
      exact (reads_string _ hname).cast (spelt_sqlName .double)
  | exact text =>
    have hreads := reads_numberPhrase (numeral_of_isNumeral h)
    rwa [String.ofList_toList] at hreads
  | string text => exact reads_escapeString text

/-- A column reads as its name, behind the name of its table if it has one. -/
theorem reads_column (folding : CaseFolding) (c : Column) :
    Reads (columnExpr (.postgres folding) c) (c.phrase folding).read := by
  have hquote : ∀ name, (Dialect.postgres folding).quote name = quotedIdent (folding.written name) :=
    folding.quote_eq
  unfold columnExpr Column.phrase
  cases c.qualifier with
  | none =>
    simp only [hquote]
    exact spelt_path [_] (by simp)
  | some table =>
    simp only [hquote]
    exact spelt_path [_, _] (by simp)

theorem reads_separator (folding : CaseFolding) (separator : Option String) :
    Reads (separatorExpr (.postgres folding) separator) (separatorPhrase separator).read := by
  cases separator with
  | none => exact reads_string "," (by decide)
  | some text => exact reads_escapeString text

/-! ## Calls -/

theorem isWord_scalarName (f : ScalarFunction) : isWord (Enumeration.name f) := by
  cases f <;> exact isWord_ofList (by decide)

theorem isWord_aggregateName (f : AggregateFunction) : isWord (Enumeration.name f) := by
  cases f <;> exact isWord_ofList (by decide)

/-- The words that a form brings with it are words. -/
theorem isWord_form (f : ScalarFunction) :
    (∀ name, f.form = .renamed name → isWord name) ∧ (∀ unit, f.form = .interval unit → isWord unit) := by
  cases f <;> simp [ScalarFunction.form] <;> decide

section Arguments

variable {es : List Expr} {ps : List (Phrase Slot)}

/-- Expressions that read as phrases come with one phrase each. -/
theorem Sql.ReadsAll.exists_cons {e : Expr} (h : ReadsAll (e :: es) (mapAll Slot.token ps)) :
    ∃ p rest, ps = p :: rest ∧ Reads e p.read ∧ ReadsAll es (mapAll Slot.token rest) := by
  cases ps with
  | nil => cases h
  | cons p rest =>
    cases h with
    | cons head tail => exact ⟨p, rest, rfl, head, tail⟩

theorem Sql.ReadsAll.eq_nil (h : ReadsAll [] (mapAll Slot.token ps)) : ps = [] := by
  cases ps with
  | nil => rfl
  | cons p rest => cases h

theorem Sql.ReadsAll.exists_one {e : Expr} (h : ReadsAll [e] (mapAll Slot.token ps)) :
    ∃ p, ps = [p] ∧ Reads e p.read := by
  obtain ⟨p, rest, rfl, hp, hrest⟩ := h.exists_cons
  obtain rfl := hrest.eq_nil
  exact ⟨p, rfl, hp⟩

theorem Sql.ReadsAll.exists_two {d e : Expr} (h : ReadsAll [d, e] (mapAll Slot.token ps)) :
    ∃ p q, ps = [p, q] ∧ Reads d p.read ∧ Reads e q.read := by
  obtain ⟨p, rest, rfl, hp, hrest⟩ := h.exists_cons
  obtain ⟨q, rfl, hq⟩ := hrest.exists_one
  exact ⟨p, q, rfl, hp, hq⟩

/-- There are as many expressions as phrases. -/
theorem Sql.ReadsAll.length_eq (h : ReadsAll es (mapAll Slot.token ps)) : es.length = ps.length := by
  induction es generalizing ps with
  | nil =>
    rw [h.eq_nil]
    rfl
  | cons e es ih =>
    obtain ⟨p, rest, rfl, -, hrest⟩ := h.exists_cons
    simp [ih hrest]

/-- A call of a scalar function reads as the phrase of its form. -/
theorem reads_scalar {f : ScalarFunction} {e : Expr} (hes : ReadsAll es (mapAll Slot.token ps))
    (h : f.form.write f es = .ok e) : Reads e (f.form.phrase f ps).read := by
  have hname := isWord_scalarName f
  obtain ⟨hrenamed, hunit⟩ := isWord_form f
  -- A form has its own number of arguments and is refused with any other, which rules out the remaining lists.
  cases hform : f.form <;> rw [hform] at h
  case renamed name =>
    rw [ScalarForm.write, Except.ok.injEq] at h
    subst h
    exact Reads.call (hrenamed name hform) false hes
  case interval unit =>
    rcases es with _ | ⟨date, _ | ⟨amount, _ | ⟨c, rest⟩⟩⟩ <;>
      simp only [ScalarForm.write, Except.ok.injEq, reduceCtorEq] at h
    obtain ⟨p, q, rfl, hp, hq⟩ := hes.exists_two
    subst h
    exact hp.binary .plus (Reads.callNamed (w := "make_interval") (by decide) (hunit unit hform) hq)
  case datePart =>
    rcases es with _ | ⟨date, _ | ⟨c, rest⟩⟩ <;>
      simp only [ScalarForm.write, Except.ok.injEq, reduceCtorEq] at h
    obtain ⟨p, rfl, hp⟩ := hes.exists_one
    subst h
    exact Reads.datePart (not_mem_of_isWord hname) hp
  case epoch =>
    rcases es with _ | ⟨date, _ | ⟨c, rest⟩⟩ <;>
      simp only [ScalarForm.write, Except.ok.injEq, reduceCtorEq] at h
    obtain ⟨p, rfl, hp⟩ := hes.exists_one
    subst h
    exact hp.extract (.inr (by decide))
  case bare =>
    cases es with
    | nil =>
      obtain rfl := hes.eq_nil
      rw [ScalarForm.write, Except.ok.injEq] at h
      subst h
      exact reads_bare hname
    | cons first rest =>
      simp only [ScalarForm.write, Except.ok.injEq] at h
      obtain ⟨p, ps, rfl, -, -⟩ := hes.exists_cons
      subst h
      exact Reads.call hname false hes
  case between operator =>
    rcases es with _ | ⟨left, _ | ⟨right, _ | ⟨c, rest⟩⟩⟩ <;>
      simp only [ScalarForm.write, Except.ok.injEq, reduceCtorEq] at h
    obtain ⟨p, q, rfl, hp, hq⟩ := hes.exists_two
    subst h
    exact (hp.binary operator hq).nested
  case sign =>
    rcases es with _ | ⟨operand, _ | ⟨c, rest⟩⟩ <;>
      simp only [ScalarForm.write, Except.ok.injEq, reduceCtorEq] at h
    obtain ⟨p, rfl, hp⟩ := hes.exists_one
    subst h
    exact hp.negate_nested
  case call =>
    rw [ScalarForm.write, Except.ok.injEq] at h
    subst h
    exact Reads.call hname false hes

/-- A call of an aggregate function reads as its phrase. -/
theorem reads_aggregate (f : AggregateFunction) (distinct : Bool)
    (hes : ReadsAll es (mapAll Slot.token ps)) :
    Reads (aggregateExpr f distinct es) (aggregatePhrase f distinct ps).read := by
  have hname := isWord_aggregateName f
  have hlength := hes.length_eq
  have hempty : es.isEmpty = ps.isEmpty := by
    cases es <;> cases ps <;> simp_all
  unfold aggregateExpr aggregatePhrase
  simp only [hlength, hempty]
  split
  · exact reads_callStar hname
  · split
    · exact Reads.call hname true (.cons (Reads.tuple hes) .nil)
    · exact Reads.call hname distinct hes

/-- Operands that are joined to what stands on their left, one by one. -/
theorem reads_joined (operator : Operator) (hes : ReadsAll es (mapAll Slot.token ps)) {first : Expr}
    {p : Phrase Slot} (hfirst : Reads first p.read) :
    Reads (es.foldl (fun left right => .binary operator left right) first)
      (ps.foldl (fun left right => .binary operator left right) p).read := by
  induction es generalizing ps first p with
  | nil =>
    obtain rfl := hes.eq_nil
    exact hfirst
  | cons e es ih =>
    obtain ⟨q, rest, rfl, hq, hrest⟩ := hes.exists_cons
    exact ih hrest (hfirst.binary operator hq)

/-- A connective reads as its phrase. -/
theorem reads_connective (operator : Operator) (hes : ReadsAll es (mapAll Slot.token ps)) {e : Expr}
    (h : connective operator es = .ok e) : Reads e (connectivePhrase operator ps).read := by
  cases es with
  | nil => cases h
  | cons first rest =>
    obtain ⟨p, ps, rfl, hp, hps⟩ := hes.exists_cons
    rw [connective, Except.ok.injEq] at h
    subst h
    exact (reads_joined operator hps hp).nested

end Arguments

/-! ## Expressions -/

/-- A letter stays a letter in upper case. -/
theorem isAlpha_toUpper {c : Char} (h : c.isAlpha) : c.toUpper.isAlpha := by
  have hascii : c.toNat < 128 := by
    change (decide ('A'.val ≤ c.val ∧ c.val ≤ 'Z'.val) ||
      decide ('a'.val ≤ c.val) && decide (c.val ≤ 'z'.val)) = true at h
    simp only [Bool.or_eq_true, Bool.and_eq_true, decide_eq_true_eq, UInt32.le_iff_toNat_le] at h
    have hval : c.val.toNat = c.toNat := rfl
    have hupper : 'Z'.val.toNat = 90 := rfl
    have hlower : 'z'.val.toNat = 122 := rfl
    omega
  have hall : ∀ c : Char, c.toNat < 128 → c.isAlpha → c.toUpper.isAlpha := by decide
  exact hall c hascii h

/-- A plain unit is a word in upper case, or empty. -/
theorem isWord_of_plainUnit {unit : String} (h : plainUnit unit) :
    Text.asciiUpper unit = "" ∨ isWord (Text.asciiUpper unit) := by
  have hstart : ∀ c ∈ unit.toList, isWordStart c.toUpper := by
    intro c hc
    simp only [plainUnit, List.all_eq_true, Bool.or_eq_true, decide_eq_true_eq] at h
    rcases h c hc with halpha | rfl
    · simp [isWordStart, isAlpha_toUpper halpha]
    · decide
  unfold Text.asciiUpper isWord
  cases hunit : unit.toList with
  | nil => exact .inl rfl
  | cons c cs =>
    rw [hunit] at hstart
    refine .inr ?_
    simp only [String.toList_ofList, List.map_cons, areWord, Bool.and_eq_true, List.all_eq_true]
    refine ⟨hstart c (by simp), fun d hd => ?_⟩
    obtain ⟨d, hmem, rfl⟩ := List.mem_map.mp hd
    simp [isWordPart, hstart d (by simp [hmem])]

/-- A LIKE reads as its phrase, with its escape if it has one. -/
theorem reads_like {v q : Expr} {p p' : Phrase Token} {escape : Option Node} {text : Option String}
    (hv : Reads v p) (hq : Reads q p') (h : escapeText escape = .ok text) :
    Reads (.like v q text) (.like p p' (mapOption Slot.token (escapePhrase escape))) := by
  cases escape with
  | none =>
    cases h
    exact hv.like hq
  | some n =>
    cases n with
    | literal l =>
      cases l with
      | string s =>
        cases h
        exact hv.like_escape hq s
      | _ => cases h
    | _ => cases h

section Expressions

variable (folding : CaseFolding) (context : GenerationContext)

/-- A comparison reads as its phrase, if its operands do. -/
theorem reads_comparison {left right : Node} {e : Expr} (operator : Operator)
    (hleft : ∀ {e : Expr}, left.plain →
      ((Generator.postgres folding context).expr left).result = .ok e →
      Reads e (left.phrase folding).read)
    (hright : ∀ {e : Expr}, right.plain →
      ((Generator.postgres folding context).expr right).result = .ok e →
      Reads e (right.phrase folding).read)
    (hn : left.plain && right.plain)
    (h : ((Generator.postgres folding context).expr left >>= fun l =>
      (Generator.postgres folding context).expr right >>= fun r =>
        pure (.binary operator l r)).result = .ok e) :
    Reads e (.binary operator (left.phrase folding).read (right.phrase folding).read) := by
  simp only [Bool.and_eq_true] at hn
  simp only [Traced.result_bind_eq_ok_iff, Traced.result_pure_eq_ok_iff] at h
  obtain ⟨l, hl, r, hr, rfl⟩ := h
  exact (hleft hn.1 hl).binary operator (hright hn.2 hr)

mutual

/-- **A written expression reads as the phrase of its tree.** -/
theorem reads_expr : ∀ (n : Node) {e : Expr}, n.plain →
    ((Generator.postgres folding context).expr n).result = .ok e → Reads e (n.phrase folding).read
  | .column c, e, _, h => by
    simp only [Generator.expr, Traced.result_pure_eq_ok_iff] at h
    subst h
    exact reads_column folding c
  | .literal l, e, hn, h => by
    simp only [Generator.expr, Traced.result_pure_eq_ok_iff] at h
    subst h
    exact reads_literal folding hn
  | .predicate p, e, hn, h => by
    rw [Generator.expr] at h
    exact reads_predicate p hn h
  | .scalar f arguments, e, hn, h => by
    simp only [Generator.expr, Traced.result_bind_eq_ok_iff] at h
    obtain ⟨es, hes, hcall⟩ := h
    exact reads_scalar (reads_exprs arguments hn hes) ((result_scalarExpr folding f es).symm.trans hcall)
  | .extract unit argument, e, hn, h => by
    simp only [Node.plain, Bool.and_eq_true] at hn
    simp only [Generator.expr, Traced.result_bind_eq_ok_iff, Traced.result_pure_eq_ok_iff] at h
    obtain ⟨e, he, rfl⟩ := h
    exact (reads_expr argument hn.2 he).extract (isWord_of_plainUnit hn.1)
  | .case basis branches otherwise, e, hn, h => by
    simp only [Node.plain, Bool.and_eq_true] at hn
    cases branches with
    | nil => simp [Generator.expr] at h
    | cons branch rest =>
      simp only [Generator.expr, List.isEmpty_cons, Bool.false_eq_true, if_false,
        Traced.result_bind_eq_ok_iff, Traced.result_pure_eq_ok_iff] at h
      obtain ⟨ws, hws, b, hb, o, ho, rfl⟩ := h
      exact Reads.case (reads_option basis hn.1.1 hb) (reads_branches (branch :: rest) hn.1.2 hws)
        (reads_option otherwise hn.2 ho)
  | .cast argument type, e, hn, h => by
    simp only [Generator.expr, Traced.result_bind_eq_ok_iff, Traced.result_pure_eq_ok_iff] at h
    obtain ⟨e, he, rfl⟩ := h
    exact (reads_expr argument hn he).cast (spelt_sqlName type)
  | .aggregate f arguments distinct, e, hn, h => by
    simp only [Generator.expr, Traced.result_bind_eq_ok_iff, Traced.result_pure_eq_ok_iff] at h
    obtain ⟨es, hes, rfl⟩ := h
    exact reads_aggregate f distinct (reads_exprs arguments hn hes)
  | .groupConcat argument distinct ordering separator, e, hn, h => by
    rw [Generator.result_groupConcat, Outcome.bind_eq_ok_iff] at h
    obtain ⟨e, he, hcall⟩ := h
    cases hcall
    exact Reads.call (w := "STRING_AGG") (by decide) distinct
      (.cons (reads_expr argument hn he) (.cons (reads_separator folding separator) .nil))
  -- a clause is refused as an expression
  | .select _ _ _ _ _ _ _, e, _, h => by simp [Generator.expr] at h
  | .selectList _, e, _, h => by simp [Generator.expr] at h
  | .table _, e, _, h => by simp [Generator.expr] at h
  | .join _ _ _ _, e, _, h => by simp [Generator.expr] at h
  | .orderBy _, e, _, h => by simp [Generator.expr] at h
  | .groupBy _, e, _, h => by simp [Generator.expr] at h
  | .limit _, e, _, h => by simp [Generator.expr] at h

/-- **A written condition reads as the phrase of its tree.** The step from the operands to the condition, one case for
each kind of condition: what is written for the operands reads as their phrases, and the operator or the word between
them adds its own token. -/
theorem reads_predicate : ∀ (p : Predicate) {e : Expr}, p.plain →
    ((Generator.postgres folding context).predicate p).result = .ok e →
    Reads e (p.phrase folding).read
  | .and operands, e, hn, h => by
    simp only [Generator.predicate, Traced.result_bind_eq_ok_iff] at h
    obtain ⟨es, hes, hjoined⟩ := h
    exact reads_connective .and (reads_exprs operands hn hes) hjoined
  | .or operands, e, hn, h => by
    simp only [Generator.predicate, Traced.result_bind_eq_ok_iff] at h
    obtain ⟨es, hes, hjoined⟩ := h
    exact reads_connective .or (reads_exprs operands hn hes) hjoined
  | .not operand, e, hn, h => by
    simp only [Generator.predicate, Traced.result_bind_eq_ok_iff, Traced.result_pure_eq_ok_iff] at h
    obtain ⟨e, he, rfl⟩ := h
    exact (reads_expr operand hn he).nested.not
  | .equal left right, e, hn, h => by
    simp only [Generator.predicate] at h
    exact reads_comparison folding context .equal (reads_expr left) (reads_expr right) hn h
  | .notEqual left right, e, hn, h => by
    simp only [Generator.predicate] at h
    exact reads_comparison folding context .notEqual (reads_expr left) (reads_expr right) hn h
  | .less left right, e, hn, h => by
    simp only [Generator.predicate] at h
    exact reads_comparison folding context .less (reads_expr left) (reads_expr right) hn h
  | .lessEqual left right, e, hn, h => by
    simp only [Generator.predicate] at h
    exact reads_comparison folding context .lessEqual (reads_expr left) (reads_expr right) hn h
  | .regexp value pattern, e, hn, h => by
    simp only [Generator.predicate] at h
    exact reads_comparison folding context .matches (reads_expr value) (reads_expr pattern) hn h
  | .like value pattern escape, e, hn, h => by
    simp only [Predicate.plain, Bool.and_eq_true] at hn
    simp only [Generator.predicate, Traced.result_bind_eq_ok_iff, Traced.result_pure_eq_ok_iff] at h
    obtain ⟨v, hv, q, hq, text, htext, rfl⟩ := h
    exact reads_like (reads_expr value hn.1 hv) (reads_expr pattern hn.2 hq) htext
  | .between value low high, e, hn, h => by
    simp only [Predicate.plain, Bool.and_eq_true] at hn
    simp only [Generator.predicate, Traced.result_bind_eq_ok_iff, Traced.result_pure_eq_ok_iff] at h
    obtain ⟨v, hv, l, hl, u, hu, rfl⟩ := h
    exact (reads_expr value hn.1.1 hv).between (reads_expr low hn.1.2 hl) (reads_expr high hn.2 hu)
  | .inList value candidates, e, hn, h => by
    simp only [Predicate.plain, Bool.and_eq_true] at hn
    cases candidates with
    | nil => simp [Generator.predicate] at h
    | cons first rest =>
      simp only [Generator.predicate, List.isEmpty_cons, Bool.false_eq_true, if_false,
        Traced.result_bind_eq_ok_iff, Traced.result_pure_eq_ok_iff] at h
      obtain ⟨v, hv, es, hes, rfl⟩ := h
      exact (reads_expr value hn.1 hv).inList (reads_exprs (first :: rest) hn.2 hes)
  | .isNull operand, e, hn, h => by
    simp only [Generator.predicate, Traced.result_bind_eq_ok_iff, Traced.result_pure_eq_ok_iff] at h
    obtain ⟨e, he, rfl⟩ := h
    exact (reads_expr operand hn he).isNull
  | .isNotNull operand, e, hn, h => by
    simp only [Generator.predicate, Traced.result_bind_eq_ok_iff, Traced.result_pure_eq_ok_iff] at h
    obtain ⟨e, he, rfl⟩ := h
    exact (reads_expr operand hn he).isNotNull

/-- Operands that are written one by one read as their phrases one by one. -/
theorem reads_exprs : ∀ (ns : List Node) {es : List Expr}, allPlain ns →
    ((Generator.postgres folding context).exprs ns).result = .ok es →
    ReadsAll es (mapAll Slot.token (phrases folding ns))
  | [], es, _, h => by
    simp only [Generator.exprs, Traced.result_pure_eq_ok_iff] at h
    subst h
    exact .nil
  | n :: ns, es, hn, h => by
    simp only [allPlain, Bool.and_eq_true] at hn
    simp only [Generator.exprs, Traced.result_bind_eq_ok_iff, Traced.result_pure_eq_ok_iff] at h
    obtain ⟨e, he, rest, hrest, rfl⟩ := h
    exact .cons (reads_expr n hn.1 he) (reads_exprs ns hn.2 hrest)

/-- A part of a CASE that is absent is not written. -/
theorem reads_option : ∀ (n : Option Node) {e : Option Expr}, optionPlain n →
    ((Generator.postgres folding context).optionalExpr n).result = .ok e →
    ReadsOption e (mapOption Slot.token (optionPhrase folding n))
  | none, e, _, h => by
    simp only [Generator.optionalExpr, Traced.result_pure_eq_ok_iff] at h
    subst h
    exact .none
  | some n, e, hn, h => by
    simp only [Generator.optionalExpr, Traced.result_bind_eq_ok_iff, Traced.result_pure_eq_ok_iff] at h
    obtain ⟨e, he, rfl⟩ := h
    exact .some (reads_expr n hn he)

/-- The branches of a CASE read as those of its phrase, conditions and results in turn. -/
theorem reads_branches : ∀ (bs : List Branch) {ws : List When}, branchesPlain bs →
    ((Generator.postgres folding context).branches bs).result = .ok ws →
    ReadsArms ws (mapArms Slot.token (armPhrases folding bs))
  | [], ws, _, h => by
    simp only [Generator.branches, Traced.result_pure_eq_ok_iff] at h
    subst h
    exact .nil
  | .mk condition result :: rest, ws, hn, h => by
    simp only [branchesPlain, Bool.and_eq_true] at hn
    simp only [Generator.branches, Traced.result_bind_eq_ok_iff, Traced.result_pure_eq_ok_iff] at h
    obtain ⟨c, hc, r, hr, ws, hws, rfl⟩ := h
    exact .cons (reads_expr condition hn.1.1 hc) (reads_expr result hn.1.2 hr)
      (reads_branches rest hn.2 hws)

end

end Expressions

end Pushdown
