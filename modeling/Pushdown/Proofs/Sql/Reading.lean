import Pushdown.Proofs.Sql.Phrase
import Pushdown.Proofs.Sql.Spelling

/-!
# `Proofs.Sql.Reading` — printed trees read as phrases

Printing a tree and reading the text gives the tokens of a phrase of the same build. There is one lemma for each
kind of tree, from the phrases of its parts.

## Contents

* `Spelt`, `SpeltAll` — lexemes that read as tokens, and parts of a list that each do.
* `Spelt.blank`, `Spelt.bracket`, `spelt_separated` — lexemes behind one another.
* `Reads` — a printed expression that reads as a phrase, with one lemma for each kind of expression.
-/

namespace Pushdown.Sql

/-! ## Lexemes -/

/-- The lexemes read as the tokens. -/
def Spelt (ls : List Lexeme) (ts : List Token) : Prop := Spells (Lexeme.allChars ls) ts

/-- Each of the parts reads as its tokens. -/
inductive SpeltAll : List (List Lexeme) → List (List Token) → Prop
  | nil : SpeltAll [] []
  | cons {part : List Lexeme} {ts : List Token} {parts : List (List Lexeme)} {rest : List (List Token)}
      (head : Spelt part ts) (tail : SpeltAll parts rest) : SpeltAll (part :: parts) (ts :: rest)

@[simp] theorem allChars_nil : Lexeme.allChars [] = [] := rfl

@[simp] theorem allChars_cons (l : Lexeme) (ls : List Lexeme) :
    Lexeme.allChars (l :: ls) = l.chars ++ Lexeme.allChars ls := by
  simp [Lexeme.allChars]

@[simp] theorem allChars_append (ls ms : List Lexeme) :
    Lexeme.allChars (ls ++ ms) = Lexeme.allChars ls ++ Lexeme.allChars ms := by
  simp [Lexeme.allChars]

section Lexemes

variable {a b inner : List Lexeme} {s t : List Token}

theorem spelt_nil : Spelt [] [] := free_nil.spells

theorem spelt_lexeme {l : Lexeme} (h : Spells l.chars s) : Spelt [l] s := by
  simpa [Spelt] using h

theorem spelt_word {w : String} (h : isWord w) : Spelt [.word w] [.word w] :=
  spelt_lexeme (spells_word h)

/-- Two pieces with a blank between them. -/
theorem Spelt.blank (ha : Spelt a s) (hb : Spelt b t) : Spelt (a ++ .blank :: b) (s ++ t) := by
  have hblank : Spells (' ' :: Lexeme.allChars b) t := free_blank.append_spells hb
  have h := Spells.append ha hblank (closes_cons rfl _)
  simpa [Spelt, Lexeme.chars] using h

/-- A piece behind a blank. -/
theorem Spelt.behind_blank (hb : Spelt b t) : Spelt (.blank :: b) t :=
  Spelt.blank spelt_nil hb

/-- A piece between parentheses, behind another. -/
theorem Spelt.bracket (ha : Spelt a s) (h : Spelt inner t) :
    Spelt (a ++ parenthesised inner) (s ++ bracketed id t) := by
  have hclose : Spells (Lexeme.allChars inner ++ [')']) (t ++ [.mark ')']) :=
    Spells.append h (free_mark (.inr (.inl rfl))).spells (closes_cons rfl _)
  have hopen : Spells ('(' :: (Lexeme.allChars inner ++ [')'])) (.mark '(' :: (t ++ [.mark ')'])) :=
    (free_mark (.inl rfl)).append_spells hclose
  have hboth := Spells.append ha hopen (closes_cons rfl _)
  simpa [Spelt, parenthesised, bracketed, Lexeme.chars] using hboth

/-- A piece, a comma, and another piece, with or without a blank behind the comma. -/
theorem Spelt.comma (ha : Spelt a s) (hb : Spelt b t) :
    Spelt (a ++ .symbol "," :: b) (s ++ .mark ',' :: t) := by
  have hcomma : Spells (',' :: Lexeme.allChars b) (.mark ',' :: t) :=
    (free_mark (.inr (.inr rfl))).append_spells hb
  have h := Spells.append ha hcomma (closes_cons rfl _)
  simpa [Spelt, Lexeme.chars] using h

/-- Parts with commas and blanks between them. -/
theorem spelt_separated {parts : List (List Lexeme)} {tss : List (List Token)}
    (h : SpeltAll parts tss) : Spelt (separated comma parts) (listed id tss) := by
  induction h with
  | nil => exact spelt_nil
  | cons head tail ih =>
    cases tail with
    | nil => simpa [separated] using head
    | cons head' tail' =>
      have h := head.comma ih.behind_blank
      simpa [separated, Sql.comma] using h

end Lexemes

/-- Words with blanks between them. -/
theorem spelt_words (ws : List String) (h : ws.all isWord) : Spelt (words ws) (ws.map .word) := by
  induction ws with
  | nil => exact spelt_nil
  | cons w ws ih =>
    simp only [List.all_cons, Bool.and_eq_true] at h
    cases ws with
    | nil => exact spelt_word h.1
    | cons w' ws =>
      have hrest := ih h.2
      have hboth := (spelt_word h.1).blank hrest
      simpa [words, separated] using hboth

/-- A clause behind its keywords. -/
theorem spelt_clause (ws : List String) (h : ws.all isWord) {ls : List Lexeme} {ts : List Token}
    (hls : Spelt ls ts) : Spelt (clause ws ls) (ws.map .word ++ ts) := by
  simpa [clause, following] using (spelt_words ws h).blank hls

/-! ## Names -/

theorem spelt_ident (name : String) : Spelt [(quotedIdent name).lexeme] [.name name] :=
  spelt_lexeme (spells_name name)

/-- Names with dots between them. -/
def pathTokens : List String → List Token
  | [] => []
  | [name] => [.name name]
  | name :: names => .name name :: .mark '.' :: pathTokens names

/-- Names with dots between them. Each is read up to the dot, since a quote follows it. -/
theorem spelt_path (names : List String) (h : names ≠ []) :
    Spelt (pathLexemes (names.map quotedIdent)) (pathTokens names) := by
  induction names with
  | nil => exact absurd rfl h
  | cons name names ih =>
    cases names with
    | nil => exact spelt_ident name
    | cons next names =>
      intro rest hrest
      have hnext := ih (by simp) rest hrest
      have hquoted : ∃ body, Lexeme.allChars (pathLexemes ((next :: names).map quotedIdent)) =
          '"' :: body := by
        cases names <;> exact ⟨_, rfl⟩
      obtain ⟨body, hbody⟩ := hquoted
      have hsplit : Lexeme.allChars (pathLexemes ((name :: next :: names).map quotedIdent)) =
          Text.quoted '"' (Text.doubled '"' name) ++
            '.' :: Lexeme.allChars (pathLexemes ((next :: names).map quotedIdent)) := by
        simp [pathLexemes, separated, Lexeme.chars, Ident.lexeme, quotedIdent]
      rw [hbody, List.cons_append] at hnext
      rw [hsplit, hbody, List.append_assoc, List.cons_append, List.cons_append, lex_name_dot, hnext]
      simp [pathTokens, Function.comp_def]

/-! ## Expressions -/

/-- The printed expression reads as the phrase. -/
def Reads (e : Expr) (p : Phrase Token) : Prop := Spelt e.lexemes p.tokens

/-- The printed expressions read as the phrases, one by one. -/
def ReadsAll (es : List Expr) (ps : List (Phrase Token)) : Prop :=
  SpeltAll (exprsLexemes es) (yieldAll id ps)

/-- Both are absent, or the printed expression reads as the phrase. -/
inductive ReadsOption : Option Expr → Option (Phrase Token) → Prop
  | none : ReadsOption none none
  | some {e : Expr} {p : Phrase Token} (h : Reads e p) : ReadsOption (some e) (some p)

/-- The printed branches read as the branches of a phrase, one by one. -/
inductive ReadsArms : List When → List (Arm Token) → Prop
  | nil : ReadsArms [] []
  | cons {c r : Expr} {p q : Phrase Token} {ws : List When} {arms : List (Arm Token)} (condition : Reads c p)
      (result : Reads r q) (tail : ReadsArms ws arms) : ReadsArms (.mk c r :: ws) (.mk p q :: arms)

section Expressions

-- every lemma below unfolds it, so its equations are made here, once
attribute [local simp] Expr.lexemes

variable {d e e' : Expr} {o p p' : Phrase Token} {es : List Expr} {ps : List (Phrase Token)}

theorem reads_bare {w : String} (h : isWord w) : Reads (.bare w) (.atom (.word w)) := spelt_word h

theorem reads_numeral {cs : List Char} (h : Numeral cs) :
    Reads (.number (String.ofList cs)) (.atom (.number (String.ofList cs))) := by
  refine spelt_lexeme ?_
  simpa [Lexeme.chars, Phrase.yield] using spells_numeral h

/-- A number that is printed with its sign reads as the sign and the number. -/
theorem reads_signed {cs : List Char} (h : Numeral cs) (negative : Bool) :
    Reads (.number (String.ofList ((if negative then '-' else '+') :: cs)))
      (.sign negative (.atom (.number (String.ofList cs)))) := by
  refine spelt_lexeme ?_
  cases negative with
  | false => simpa [Lexeme.chars, Phrase.yield, signToken] using spells_signed h (.inl rfl)
  | true => simpa [Lexeme.chars, Phrase.yield, signToken] using spells_signed h (.inr rfl)

theorem reads_string (text : String) (h : '\'' ∉ text.toList) :
    Reads (.string text) (.atom (.string text)) :=
  spelt_lexeme (spells_quoted_string (Text.isChain_unescaped h))

theorem reads_escapeString (text : String) :
    Reads (.escapeString (Text.doubled '\'' (Text.doubled '\\' text))) (.atom (.string text)) :=
  spelt_lexeme (spells_escapeString text)

/-- A date or timestamp: the word in front of a string constant. -/
theorem reads_typed {w text : String} (hw : isWord w) (h : text.toList.IsChain (Text.Unescaped '\'')) :
    Reads (.typed w text) (.typed w (.string text)) := by
  have htext : Spelt [.string text] [.string text] := spelt_lexeme (spells_quoted_string h)
  simpa [Reads, Expr.lexemes, Phrase.yield] using (spelt_word hw).blank htext

/-- An operator stands between its operands with blanks around it, so that no other operator grows out of it. -/
theorem Reads.binary (operator : Operator) (hd : Reads d o) (he : Reads e p) :
    Reads (.binary operator d e) (.binary operator o p) := by
  have hop : Spelt [operator.lexeme] [operator.token] := spelt_lexeme (spells_operator operator)
  have h := Spelt.blank hd (hop.blank he)
  simpa [Reads, Expr.lexemes, Phrase.yield] using h

theorem Reads.nested (he : Reads e p) : Reads (.nested e) (.group p) :=
  Spelt.bracket spelt_nil he

/-- A sign directly before a parenthesis. -/
theorem Reads.negate_nested (he : Reads e p) : Reads (.negate (.nested e)) (.sign true (.group p)) := by
  have hsign : Spelt [.symbol "-"] [.operator "-"] := spelt_lexeme (spells_operator .minus)
  exact hsign.bracket he

theorem Reads.not (he : Reads e p) : Reads (.not e) (.not p) :=
  Spelt.blank (spelt_word (w := "NOT") (by decide)) he

/-- Two pieces with a word between them. -/
theorem Spelt.spaced {a b : List Lexeme} {s t : List Token} {w : String} (hw : isWord w)
    (ha : Spelt a s) (hb : Spelt b t) : Spelt (a ++ spaced w ++ b) (s ++ .word w :: t) := by
  have h := ha.blank ((spelt_word hw).blank hb)
  simpa [Sql.spaced] using h

theorem Reads.like (hd : Reads d o) (he : Reads e p) :
    Reads (.like d e none) (.like o p none) := by
  have h := Spelt.spaced (w := "LIKE") (by decide) hd he
  simpa [Reads, Expr.lexemes, Phrase.yield, yieldBehind] using h

/-- The escape of a LIKE is printed with every quote twice. -/
theorem Reads.like_escape (hd : Reads d o) (he : Reads e p) (text : String) :
    Reads (.like d e (some (Text.doubled '\'' text))) (.like o p (some (.atom (.string text)))) := by
  have hescape : Spelt [.plainString (Text.doubled '\'' text)] [.string text] := by
    refine spelt_lexeme ?_
    simpa [Lexeme.chars, Text.doubled] using spells_doubled_string text
  have h := Spelt.spaced (w := "ESCAPE") (by decide)
    (Spelt.spaced (w := "LIKE") (by decide) hd he) hescape
  simpa [Reads, Expr.lexemes, Phrase.yield, yieldBehind] using h

theorem Reads.between (hd : Reads d o) (he : Reads e p) (he' : Reads e' p') :
    Reads (.between d e e') (.between o p p') := by
  have h := Spelt.spaced (w := "AND") (by decide)
    (Spelt.spaced (w := "BETWEEN") (by decide) hd he) he'
  simpa [Reads, Expr.lexemes, Phrase.yield] using h

theorem Reads.inList (hd : Reads d o) (hes : ReadsAll es ps) :
    Reads (.inList d es) (.inList o ps) := by
  have hlist := Spelt.bracket spelt_nil (spelt_separated hes)
  have h := Spelt.spaced (w := "IN") (by decide) hd hlist
  simpa [Reads, Expr.lexemes, Phrase.yield] using h

theorem Reads.isNull (hd : Reads d o) : Reads (.isNull d) (.isNull false o) := by
  have h := Spelt.spaced (w := "IS") (by decide) hd (spelt_word (w := "NULL") (by decide))
  simpa [Reads, Expr.lexemes, Phrase.yield, nullTokens] using h

theorem Reads.isNotNull (hd : Reads d o) : Reads (.isNotNull d) (.isNull true o) := by
  have h := Spelt.spaced (w := "IS") (by decide) hd (spelt_words ["NOT", "NULL"] (by decide))
  simpa [Reads, Expr.lexemes, Phrase.yield, nullTokens] using h

theorem Reads.cast (he : Reads e p) {typeName : String} {type : List Token}
    (htype : Spelt [.word typeName] type) : Reads (.cast e typeName) (.cast p type) := by
  have h := (spelt_word (w := "CAST") (by decide)).bracket (Spelt.spaced (w := "AS") (by decide) he htype)
  simpa [Reads, Expr.lexemes, Phrase.yield] using h

/-- The unit of an EXTRACT is printed as it stands: a word, or nothing at all. -/
theorem Reads.extract (he : Reads e p) {unit : String} (hunit : unit = "" ∨ isWord unit) :
    Reads (.extract unit e) (.extract unit p) := by
  have hword : Spelt [.word unit] (unitTokens unit) := by
    rcases hunit with rfl | hw
    · exact spelt_lexeme free_nil.spells
    · have hne : unit ≠ "" := by
        rintro rfl
        exact absurd hw (by decide)
      simpa [unitTokens, hne] using spelt_word hw
  have h := (spelt_word (w := "EXTRACT") (by decide)).bracket
    (Spelt.spaced (w := "FROM") (by decide) hword he)
  simpa [Reads, Expr.lexemes, Phrase.yield] using h

theorem Reads.tuple (hes : ReadsAll es ps) : Reads (.tuple es) (.row ps) :=
  Spelt.bracket spelt_nil (spelt_separated hes)

/-- A call by its name, with DISTINCT behind the opening bracket or without. -/
theorem Reads.call {w : String} (hw : isWord w) (distinct : Bool) (hes : ReadsAll es ps) :
    Reads (.call w distinct es) (.call w distinct ps) := by
  have hlist := spelt_separated hes
  cases distinct with
  | false => exact (spelt_word hw).bracket hlist
  | true =>
    have h := (spelt_word hw).bracket ((spelt_word (w := "DISTINCT") (by decide)).blank hlist)
    simpa [Reads, Expr.lexemes, Phrase.yield, distinctMark] using h

theorem reads_callStar {w : String} (hw : isWord w) : Reads (.callStar w) (.callStar w) :=
  (spelt_word hw).bracket (spelt_lexeme (spells_operator .times))

/-- A call with a named parameter; the arrow is one token. -/
theorem Reads.callNamed {w parameter : String} (hw : isWord w) (hparameter : isWord parameter)
    (he : Reads e p) : Reads (.callNamed w parameter e) (.callNamed w parameter p) := by
  have harrow : Spelt [.symbol "=>"] [.operator "=>"] := by
    intro rest hrest
    exact (Scan.run_within rfl _).trans ((Scan.run_within rfl _).trans ((ends_operator _).run_eq hrest))
  have h := (spelt_word hw).bracket ((spelt_word hparameter).blank (harrow.blank he))
  simpa [Reads, Expr.lexemes, Phrase.yield] using h

theorem Reads.datePart {unit : String} (hunit : '\'' ∉ unit.toList) (he : Reads e p) :
    Reads (.datePart unit e) (.call "DATE_PART" false [.atom (.string unit), p]) := by
  have hstring : Spelt [.string unit] [.string unit] :=
    spelt_lexeme (spells_quoted_string (Text.isChain_unescaped hunit))
  have h := (spelt_word (w := "DATE_PART") (by decide)).bracket (hstring.comma he)
  simp only [Reads, Expr.lexemes, Phrase.yield, yieldAll, listed_cons_cons, listed_singleton]
  exact h

/-- Branches behind something else. -/
theorem Spelt.arms {a : List Lexeme} {s : List Token} {ws : List When} {arms : List (Arm Token)}
    (ha : Spelt a s) (h : ReadsArms ws arms) :
    Spelt (a ++ branchesLexemes ws) (s ++ yieldArms id arms) := by
  induction h generalizing a s with
  | nil => simpa [branchesLexemes, yieldArms] using ha
  | cons condition result tail ih =>
    have hwhen := Spelt.spaced (w := "WHEN") (by decide) ha condition
    have hthen := Spelt.spaced (w := "THEN") (by decide) hwhen result
    simpa [branchesLexemes, yieldArms] using ih hthen

/-- A CASE reads as its parts with their words in front of them. -/
theorem Reads.case {basis otherwise : Option Expr} {b o : Option (Phrase Token)} {ws : List When}
    {arms : List (Arm Token)} (hbasis : ReadsOption basis b) (harms : ReadsArms ws arms)
    (hotherwise : ReadsOption otherwise o) : Reads (.case basis ws otherwise) (.case b arms o) := by
  have hcase : Spelt (.word "CASE" :: basisLexemes basis) (.word "CASE" :: yieldOption id b) := by
    cases hbasis with
    | none => exact spelt_word (by decide)
    | some h => exact (spelt_word (w := "CASE") (by decide)).blank h
  have hwhen := hcase.arms harms
  have hend := spelt_word (w := "END") (by decide)
  cases hotherwise with
  | none =>
    simpa [Reads, Expr.lexemes, Phrase.yield, yieldBehind, otherwiseLexemes] using hwhen.blank hend
  | some h =>
    have helse := (Spelt.spaced (w := "ELSE") (by decide) hwhen h).blank hend
    simpa [Reads, Expr.lexemes, Phrase.yield, yieldBehind, otherwiseLexemes] using helse

end Expressions

end Pushdown.Sql
