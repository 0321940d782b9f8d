import Pushdown.Proofs.Number.Numeral
import Pushdown.Proofs.Sql.Token
import Pushdown.Proofs.Text.Quote
import Pushdown.Sql.Lexeme

/-!
# `Proofs.Sql.Spelling` — printed lexemes read as the tokens they stand for

A piece of text spells tokens if the reader finds these tokens in it whatever comes behind it, as long as that
begins with a blank, a bracket or a comma. Such pieces can be put behind one another, which is how a whole tree is
followed from its leaves to its text.

## Contents

* `Closes`, `Spells`, `Free` — pieces of text that read as tokens, with and without a condition on what follows.
* `Spells.append`, `Free.append_spells` — pieces behind one another.
* `spells_word`, `spells_operator`, `spells_quoted`, `spells_escapeString`, `spells_path` — the single lexemes.
* `isDecimal`, `spells_unsigned` — plain decimal numbers.
-/

namespace Pushdown.Sql

open Scan (begins behind)

/-! ## Following the reader -/

namespace Scan

theorem run_cons {s t : Scan} {c : Char} {ts : List Token} (h : s.step c = some (ts, t))
    (cs : List Char) : run s (c :: cs) = (run t cs).map (ts ++ ·) := by
  rw [run, h]

/-- A character inside a token only moves the reader on. -/
theorem run_within {s t : Scan} {c : Char} (h : s.step c = some ([], t)) (cs : List Char) :
    run s (c :: cs) = run t cs := by
  rw [run_cons h]
  simp

/-- Characters that each keep the reader in a token, one read more. -/
theorem run_all {state : List Char → Scan} {p : Char → Bool}
    (h : ∀ read c, p c → (state read).step c = some ([], state (c :: read)))
    {cs : List Char} (hcs : cs.all p) (read rest : List Char) :
    run (state read) (cs ++ rest) = run (state (cs.reverse ++ read)) rest := by
  induction cs generalizing read with
  | nil => rfl
  | cons c cs ih =>
    simp only [List.all_cons, Bool.and_eq_true] at hcs
    rw [List.cons_append, run_within (h read c hcs.1), ih hcs.2]
    simp

end Scan

/-! ## Pieces of text -/

/-- A character that ends every token. -/
def isCloser (c : Char) : Bool := c = ' ' || c = '(' || c = ')' || c = ','

/-- The text is empty, or its first character ends every token. -/
def Closes (cs : List Char) : Prop := ∀ c ∈ cs.head?, isCloser c

/-- The text reads as the tokens, if what follows ends a token. -/
def Spells (cs : List Char) (ts : List Token) : Prop :=
  ∀ rest, Closes rest → lex (cs ++ rest) = (lex rest).map (ts ++ ·)

/-- The text reads as the tokens, whatever follows. -/
def Free (cs : List Char) (ts : List Token) : Prop :=
  ∀ rest, lex (cs ++ rest) = (lex rest).map (ts ++ ·)

/-- The reader has read the whole of some tokens: a character that ends tokens completes them. -/
def Scan.Ends (s : Scan) (ts : List Token) : Prop :=
  s.finish = some ts ∧ ∀ c, isCloser c → s.step c = behind ts c

section Pieces

variable {a b : List Char} {s t : List Token}

theorem closes_cons {c : Char} (h : isCloser c) (cs : List Char) : Closes (c :: cs) := by
  intro d hd
  cases hd
  exact h

theorem closes_append (ha : Closes a) (hb : Closes b) : Closes (a ++ b) := by
  cases a with
  | nil => exact hb
  | cons c cs => exact closes_cons (ha c rfl) _

/-- A character that completes tokens is the first of what follows them. -/
theorem Scan.run_of_behind {state : Scan} {ts : List Token} {c : Char} (h : state.step c = behind ts c)
    (cs : List Char) : Scan.run state (c :: cs) = (lex (c :: cs)).map (ts ++ ·) := by
  rw [Scan.run, h, lex, Scan.run, Scan.step, behind]
  cases begins c with
  | none => rfl
  | some next =>
    obtain ⟨us, s'⟩ := next
    simp [Function.comp_def]

/-- A state that ends its token before a closing character leaves the rest to a reader that starts anew. -/
theorem Scan.Ends.run_eq {state : Scan} {ts : List Token} (h : state.Ends ts) {rest : List Char}
    (hrest : Closes rest) : Scan.run state rest = (lex rest).map (ts ++ ·) := by
  cases rest with
  | nil =>
    have hnil : lex [] = some [] := rfl
    rw [Scan.run, h.1, hnil]
    simp
  | cons c cs => exact Scan.run_of_behind (h.2 c (hrest c rfl)) cs

theorem Spells.lex_eq (h : Spells a s) : lex a = some s := by
  have hnil := h [] (by simp [Closes])
  simpa [lex, Scan.run, Scan.finish] using hnil

theorem Free.spells (h : Free a s) : Spells a s := fun rest _ => h rest

/-- A piece behind another, if it begins with a character that ends tokens. -/
theorem Spells.append (ha : Spells a s) (hb : Spells b t) (hgap : Closes b) :
    Spells (a ++ b) (s ++ t) := by
  intro rest hrest
  rw [List.append_assoc, ha _ (closes_append hgap hrest), hb rest hrest]
  simp [Function.comp_def]

theorem Free.append_spells (ha : Free a s) (hb : Spells b t) : Spells (a ++ b) (s ++ t) := by
  intro rest hrest
  rw [List.append_assoc, ha, hb rest hrest]
  simp [Function.comp_def]

theorem free_nil : Free [] [] := fun rest => by simp

theorem free_blank : Free [' '] [] := by
  intro rest
  exact (Scan.run_within rfl rest).trans (by simp [lex])

theorem free_mark {c : Char} (h : c = '(' ∨ c = ')' ∨ c = ',') : Free [c] [.mark c] := by
  intro rest
  rcases h with rfl | rfl | rfl
  · exact Scan.run_cons rfl rest
  · exact Scan.run_cons rfl rest
  · exact Scan.run_cons rfl rest

end Pieces

/-! ## Words and operators -/

/-- A character that ends tokens is none of those that go on with one. -/
theorem isCloser_cases {c : Char} (h : isCloser c) :
    isWordPart c = false ∧ isDigit c = false ∧ operatorChars.contains c = false ∧ c ≠ '.' ∧
      c ≠ '\'' ∧ c ≠ '"' ∧ c ≠ '&' ∧ c ≠ 'e' ∧ c ≠ 'E' := by
  simp only [isCloser, Bool.or_eq_true, decide_eq_true_eq] at h
  rcases h with ((rfl | rfl) | rfl) | rfl
  all_goals decide

/-- The characters are those of a word. -/
def areWord : List Char → Bool
  | [] => false
  | c :: cs => isWordStart c && cs.all isWordPart

/-- The text is a word. -/
def isWord (s : String) : Bool := areWord s.toList

/-- A text that is given letter by letter need not be taken apart. -/
theorem isWord_ofList {cs : List Char} (h : areWord cs) : isWord (String.ofList cs) := by
  rwa [isWord, String.toList_ofList]

/-- A word holds no quote. -/
theorem not_mem_of_isWord {s : String} (h : isWord s) : '\'' ∉ s.toList := by
  unfold isWord at h
  cases hs : s.toList with
  | nil => simp
  | cons c cs =>
    simp only [hs, areWord, Bool.and_eq_true, List.all_eq_true] at h
    rintro (_ | ⟨_, hmem⟩)
    · exact absurd h.1 (by decide)
    · exact absurd (h.2 _ hmem) (by decide)

theorem ends_word (read : List Char) : (Scan.word read).Ends [.word (String.ofList read.reverse)] := by
  refine ⟨rfl, fun c hc => ?_⟩
  obtain ⟨hpart, -, -, -, hquote, -, hand, -, -⟩ := isCloser_cases hc
  simp [Scan.step, hpart, hquote, hand]

/-- A character that may begin a word does. -/
theorem begins_word {c : Char} (h : isWordStart c) : begins c = some ([], .word [c]) := by
  have hspace : isSpace c = false := by
    cases hs : isSpace c with
    | false => rfl
    | true =>
      simp only [isSpace, Bool.or_eq_true, decide_eq_true_eq] at hs
      rcases hs with ((rfl | rfl) | rfl) | rfl
      all_goals exact absurd h (by decide)
  have hline : isLineEnd c = false := by
    cases hs : isLineEnd c with
    | false => rfl
    | true =>
      simp only [isLineEnd, Bool.or_eq_true, decide_eq_true_eq] at hs
      rcases hs with rfl | rfl
      all_goals exact absurd h (by decide)
  simp [begins, hspace, hline, h]

/-- A word reads as that word. -/
theorem spells_word {s : String} (h : isWord s) : Spells s.toList [.word s] := by
  intro rest hrest
  unfold isWord at h
  cases hs : s.toList with
  | nil => simp [hs, areWord] at h
  | cons c cs =>
    simp only [hs, areWord, Bool.and_eq_true] at h
    have hword : ∀ read d, isWordPart d → (Scan.word read).step d = some ([], .word (d :: read)) := by
      intro read d hd
      simp [Scan.step, hd]
    have htext : String.ofList (cs.reverse ++ [c]).reverse = s := by
      rw [List.reverse_append, List.reverse_reverse, List.reverse_singleton, List.singleton_append, ← hs,
        String.ofList_toList]
    rw [lex, List.cons_append, Scan.run_within (s := .gap) (begins_word h.1), Scan.run_all hword h.2,
      (ends_word _).run_eq hrest, htext]

theorem ends_operator (read : List Char) : (Scan.operator read).Ends (operatorTokens read) := by
  refine ⟨rfl, fun c hc => ?_⟩
  obtain ⟨-, -, hop, -⟩ := isCloser_cases hc
  rw [Scan.step, Scan.stepOperator.eq_def, hop]
  rfl

/-- Each binary operator that is not a word reads as one token. -/
theorem spells_operator (o : Operator) : Spells o.lexeme.chars
    [match o with
      | .and | .or => .word o.text
      | _ => .operator o.text] := by
  cases o with
  | and => exact spells_word (by decide)
  | or => exact spells_word (by decide)
  | notEqual =>
    intro rest hrest
    exact (Scan.run_within rfl _).trans ((Scan.run_within rfl _).trans ((ends_operator _).run_eq hrest))
  | lessEqual =>
    intro rest hrest
    exact (Scan.run_within rfl _).trans ((Scan.run_within rfl _).trans ((ends_operator _).run_eq hrest))
  | _ =>
    intro rest hrest
    exact (Scan.run_within rfl _).trans ((ends_operator _).run_eq hrest)

/-! ## Names and strings -/

section Quotes

variable {q : Char} {inside ended : List Char → Scan}

/-- A text with every quote written twice is read as far as the quote that ends it. -/
theorem run_double
    (hplain : ∀ read c, c ≠ q → (inside read).step c = some ([], inside (c :: read)))
    (hquote : ∀ read, (inside read).step q = some ([], ended read))
    (htwice : ∀ read, (ended read).step q = some ([], inside (q :: read)))
    (cs read rest : List Char) :
    Scan.run (inside read) (Text.double q cs ++ q :: rest) =
      Scan.run (ended (cs.reverse ++ read)) rest := by
  induction cs generalizing read with
  | nil => exact Scan.run_within (hquote read) rest
  | cons c cs ih =>
    by_cases hc : c = q
    · subst hc
      -- the first of the two quotes could end the text, and the second takes that back
      simp only [Text.double, if_true, List.cons_append]
      rw [Scan.run_within (hquote read), Scan.run_within (htwice read), ih]
      simp
    · simp only [Text.double, hc, if_false, List.cons_append]
      rw [Scan.run_within (hplain read c hc), ih]
      simp

end Quotes

theorem run_name (cs read rest : List Char) :
    Scan.run (.name read) (Text.double '"' cs ++ '"' :: rest) =
      Scan.run (.nameQuote (cs.reverse ++ read)) rest := by
  refine run_double (fun read c hc => ?_) (fun read => rfl) (fun read => rfl) cs read rest
  simp [Scan.step, hc]

theorem run_string (cs read rest : List Char) :
    Scan.run (.string read) (Text.double '\'' cs ++ '\'' :: rest) =
      Scan.run (.stringQuote (cs.reverse ++ read)) rest := by
  refine run_double (fun read c hc => ?_) (fun read => rfl) (fun read => rfl) cs read rest
  simp [Scan.step, hc]

/-- A text with backslashes and quotes written twice is read as far as the quote that ends it. -/
theorem run_escape (cs read rest : List Char) :
    Scan.run (.escape read) (Text.double '\'' (Text.double '\\' cs) ++ '\'' :: rest) =
      Scan.run (.escapeQuote (cs.reverse ++ read)) rest := by
  induction cs generalizing read with
  | nil => exact Scan.run_within rfl rest
  | cons c cs ih =>
    -- the inner pass doubles only backslashes and the outer one only quotes, so no character is doubled by both
    by_cases hb : c = '\\'
    · subst hb
      have hdouble : Text.double '\'' (Text.double '\\' ('\\' :: cs)) =
          '\\' :: '\\' :: Text.double '\'' (Text.double '\\' cs) := by simp [Text.double]
      rw [hdouble, List.cons_append, List.cons_append,
        Scan.run_within (t := .escapeBackslash read) rfl,
        Scan.run_within (t := .escape ('\\' :: read)) rfl, ih]
      simp
    · by_cases hq : c = '\''
      · subst hq
        have hdouble : Text.double '\'' (Text.double '\\' ('\'' :: cs)) =
            '\'' :: '\'' :: Text.double '\'' (Text.double '\\' cs) := by simp [Text.double]
        rw [hdouble, List.cons_append, List.cons_append,
          Scan.run_within (t := .escapeQuote read) rfl,
          Scan.run_within (t := .escape ('\'' :: read)) rfl, ih]
        simp
      · have hstep : (Scan.escape read).step c = some ([], .escape (c :: read)) := by
          simp [Scan.step, hb, hq]
        simp only [Text.double, hb, hq, if_false, List.cons_append]
        rw [Scan.run_within hstep, ih]
        simp

theorem ends_nameQuote (read : List Char) :
    (Scan.nameQuote read).Ends [.name (String.ofList read.reverse)] := by
  refine ⟨rfl, fun c hc => ?_⟩
  obtain ⟨-, -, -, -, -, hquote, -⟩ := isCloser_cases hc
  simp [Scan.step, hquote]

theorem ends_stringQuote (read : List Char) :
    (Scan.stringQuote read).Ends [.string (String.ofList read.reverse)] := by
  refine ⟨rfl, fun c hc => ?_⟩
  obtain ⟨-, -, -, -, hquote, -⟩ := isCloser_cases hc
  simp [Scan.step, hquote]

theorem ends_escapeQuote (read : List Char) :
    (Scan.escapeQuote read).Ends [.string (String.ofList read.reverse)] := by
  refine ⟨rfl, fun c hc => ?_⟩
  obtain ⟨-, -, -, -, hquote, -⟩ := isCloser_cases hc
  simp [Scan.step, hquote]

/-- A text between quotes that was written with every quote twice. -/
theorem quoted_doubled (q : Char) (s : String) :
    Text.quoted q (Text.doubled q s) = q :: Text.double q s.toList ++ [q] := by
  rw [Text.quoted, Text.doubled, String.toList_ofList, (Text.protect_double q s.toList).1]

/-- A name between double quotes reads as that name. -/
theorem spells_name (s : String) : Spells (Text.quoted '"' (Text.doubled '"' s)) [.name s] := by
  intro rest hrest
  rw [quoted_doubled, List.append_assoc, List.cons_append, lex,
    Scan.run_within (t := .name []) rfl, List.singleton_append, run_name,
    (ends_nameQuote _).run_eq hrest]
  simp

/-- A name between double quotes in front of another. -/
theorem lex_name_dot (s : String) (rest : List Char) :
    lex (Text.quoted '"' (Text.doubled '"' s) ++ '.' :: '"' :: rest) =
      (lex ('"' :: rest)).map ([.name s, .mark '.'] ++ ·) := by
  have hdot : ∀ read, (Scan.nameQuote read).step '.' =
      some ([.name (String.ofList read.reverse)], .point) := fun read => rfl
  have hquote : Scan.point.step '"' = some ([.mark '.'], .name []) := rfl
  have hnext : lex ('"' :: rest) = Scan.run (.name []) rest := Scan.run_within rfl rest
  rw [quoted_doubled, List.append_assoc, List.cons_append, lex,
    Scan.run_within (t := .name []) rfl, List.singleton_append, run_name, Scan.run_cons (hdot _),
    Scan.run_cons hquote, hnext]
  simp [Function.comp_def]

/-- A string constant that was written with every quote twice reads as its text. -/
theorem spells_doubled_string (s : String) :
    Spells ('\'' :: Text.double '\'' s.toList ++ ['\'']) [.string s] := by
  intro rest hrest
  rw [List.append_assoc, List.cons_append, lex, Scan.run_within (t := .string []) rfl,
    List.singleton_append, run_string, (ends_stringQuote _).run_eq hrest]
  simp

/-- A string constant reads as its text if no quote of the text looks escaped. -/
theorem spells_quoted_string {s : String} (h : s.toList.IsChain (Text.Unescaped '\'')) :
    Spells (Text.quoted '\'' s) [.string s] := by
  have hdouble := (Text.protect_eq_double_iff (by decide) s.toList).mpr h
  rw [Text.quoted, hdouble]
  exact spells_doubled_string s

/-- A string constant with backslash escapes reads as its text. -/
theorem spells_escapeString (s : String) :
    Spells (Lexeme.escapeString (Text.doubled '\'' (Text.doubled '\\' s))).chars [.string s] := by
  intro rest hrest
  have hbody : (Text.doubled '\'' (Text.doubled '\\' s)).toList =
      Text.double '\'' (Text.double '\\' s.toList) := by
    simp [Text.doubled]
  rw [Lexeme.chars, hbody, List.append_assoc, List.cons_append, List.cons_append, lex,
    Scan.run_within (t := .word ['E']) rfl, Scan.run_within (t := .escape []) rfl,
    List.singleton_append, run_escape, (ends_escapeQuote _).run_eq hrest]
  simp

/-! ## Numbers -/

/-- The ten digits. -/
def digits : List Char := ['0', '1', '2', '3', '4', '5', '6', '7', '8', '9']

/-- There are no other digits than the ten. -/
theorem digit_cases {c : Char} (h : isDigit c) : c ∈ digits := by
  simp only [isDigit, Bool.and_eq_true, decide_eq_true_eq] at h
  have hc : c = Char.ofNat c.toNat := (Char.ofNat_toNat c).symm
  have hn : c.toNat = 48 ∨ c.toNat = 49 ∨ c.toNat = 50 ∨ c.toNat = 51 ∨ c.toNat = 52 ∨ c.toNat = 53 ∨
      c.toNat = 54 ∨ c.toNat = 55 ∨ c.toNat = 56 ∨ c.toNat = 57 := by omega
  rcases hn with h | h | h | h | h | h | h | h | h | h
  all_goals
    rw [hc, h]
    decide

/-- A digit begins a number. -/
theorem begins_digit {c : Char} (h : isDigit c) : begins c = some ([], .number .whole [c]) := by
  have hall : digits.all fun d => begins d = some ([], .number .whole [d]) := by decide
  exact of_decide_eq_true (List.all_eq_true.mp hall c (digit_cases h))

/-- A number is completed, unless it has stopped in the middle of its exponent. -/
theorem ends_number {part : NumberPart} (hletter : part ≠ .letter) (hsign : part ≠ .sign)
    (read : List Char) : (Scan.number part read).Ends [.number (String.ofList read.reverse)] := by
  refine ⟨by simp [Scan.finish, hletter, hsign], fun c hc => ?_⟩
  obtain ⟨hpart, hdigit, -, hdot, -, -, -, he, hE⟩ := isCloser_cases hc
  cases part with
  | letter => exact absurd rfl hletter
  | sign => exact absurd rfl hsign
  | _ => simp [Scan.step, Scan.stepNumber, hpart, hdigit, hdot, he, hE]

/-- Digits that go on with a part of a number. -/
theorem run_digits {part : NumberPart}
    (hpart : part = .whole ∨ part = .fraction ∨ part = .exponent) {ds : List Char} (h : ds.all isDigit)
    (read rest : List Char) :
    Scan.run (.number part read) (ds ++ rest) = Scan.run (.number part (ds.reverse ++ read)) rest := by
  have hstep : ∀ read c, isDigit c →
      (Scan.number part read).step c = some ([], .number part (c :: read)) := by
    intro read c hc
    rcases hpart with rfl | rfl | rfl
    all_goals simp [Scan.step, Scan.stepNumber, hc]
  exact Scan.run_all (p := isDigit) hstep h read rest

/-- Behind the letter or the sign of an exponent, its digits are read to their end. -/
theorem run_exponent_digits {part : NumberPart} (hpart : part = .letter ∨ part = .sign)
    {ds : List Char} (h : isDigits ds) (read : List Char) {rest : List Char} (hrest : Closes rest) :
    Scan.run (.number part read) (ds ++ rest) =
      (lex rest).map ([.number (String.ofList (ds.reverse ++ read).reverse)] ++ ·) := by
  cases ds with
  | nil => simp [isDigits] at h
  | cons d ds =>
    simp only [isDigits, List.all_cons, Bool.and_eq_true] at h
    have hstep : (Scan.number part read).step d = some ([], .number .exponent (d :: read)) := by
      rcases hpart with rfl | rfl <;> simp [Scan.step, Scan.stepNumber, h.2.1]
    rw [List.cons_append, Scan.run_within hstep, run_digits (.inr (.inr rfl)) h.2.2,
      (ends_number (by decide) (by decide) _).run_eq hrest]
    simp

/-- Behind whole digits or a fraction, an exponent is read to its end. -/
theorem run_exponent {part : NumberPart} (hpart : part = .whole ∨ part = .fraction) {cs : List Char}
    (h : isExponent cs) (read : List Char) {rest : List Char} (hrest : Closes rest) :
    Scan.run (.number part read) (cs ++ rest) =
      (lex rest).map ([.number (String.ofList (cs.reverse ++ read).reverse)] ++ ·) := by
  cases cs with
  | nil => exact (ends_number (by rcases hpart with rfl | rfl <;> decide)
      (by rcases hpart with rfl | rfl <;> decide) read).run_eq hrest
  | cons c cs =>
    simp only [isExponent, Bool.and_eq_true, Bool.or_eq_true, decide_eq_true_eq] at h
    have hletter : (Scan.number part read).step c = some ([], .number .letter (c :: read)) := by
      rcases hpart with rfl | rfl <;> rcases h.1 with rfl | rfl <;> rfl
    rw [List.cons_append, Scan.run_within hletter]
    rcases unsigned_cases cs with ⟨sign, hsign, hcs⟩ | hcs
    · have hstep : (Scan.number .letter (c :: read)).step sign =
          some ([], .number .sign (sign :: c :: read)) := by
        rcases hsign with rfl | rfl <;> rfl
      rw [hcs, List.cons_append, Scan.run_within hstep, run_exponent_digits (.inr rfl) h.2 _ hrest]
      simp
    · rw [hcs, run_exponent_digits (.inl rfl) h.2 _ hrest]
      simp

/-- A decimal number without a sign is read to its end, once its first digit begins it. -/
theorem run_numeral {whole fraction exponent : List Char} (hwhole : whole.all isDigit)
    (hfraction : isFraction fraction) (hexponent : isExponent exponent) (read : List Char)
    {rest : List Char} (hrest : Closes rest) :
    Scan.run (.number .whole read) (whole ++ fraction ++ exponent ++ rest) =
      (lex rest).map
        ([.number (String.ofList ((whole ++ fraction ++ exponent).reverse ++ read).reverse)] ++ ·) := by
  rw [List.append_assoc, List.append_assoc, run_digits (.inl rfl) hwhole]
  cases fraction with
  | nil =>
    rw [List.nil_append, run_exponent (.inl rfl) hexponent _ hrest]
    simp
  | cons c ds =>
    have hdot : c = '.' ∧ isDigits ds := by
      unfold isFraction at hfraction
      split at hfraction
      · contradiction
      next heq =>
        cases heq
        exact ⟨rfl, hfraction⟩
      · exact absurd hfraction (by decide)
    obtain ⟨rfl, hds⟩ := hdot
    simp only [isDigits, Bool.and_eq_true] at hds
    rw [List.cons_append, Scan.run_within (t := .number .fraction ('.' :: (whole.reverse ++ read))) rfl,
      run_digits (.inr (.inl rfl)) hds.2, run_exponent (.inr rfl) hexponent _ hrest]
    simp

/-- A numeral reads as one number. -/
theorem spells_numeral {cs : List Char} (h : Numeral cs) : Spells cs [.number (String.ofList cs)] := by
  intro rest hrest
  obtain ⟨whole, fraction, exponent, rfl, hwhole, hfraction, hexponent⟩ := h
  cases whole with
  | nil => simp [isDigits] at hwhole
  | cons d ds =>
    simp only [isDigits, List.all_cons, Bool.and_eq_true] at hwhole
    rw [List.cons_append, List.cons_append, List.cons_append, lex,
      Scan.run_within (s := .gap) (begins_digit hwhole.2.1),
      run_numeral hwhole.2.2 hfraction hexponent _ hrest]
    simp

/-- A numeral behind a sign reads as the sign and the number. -/
theorem spells_signed {cs : List Char} (h : Numeral cs) {sign : Char} (hsign : sign = '+' ∨ sign = '-') :
    Spells (sign :: cs) [.operator (String.ofList [sign]), .number (String.ofList cs)] := by
  intro rest hrest
  have hnumber := spells_numeral h rest hrest
  obtain ⟨whole, fraction, exponent, rfl, hwhole, hfraction, hexponent⟩ := h
  cases whole with
  | nil => simp [isDigits] at hwhole
  | cons d ds =>
    simp only [isDigits, List.all_cons, Bool.and_eq_true] at hwhole
    have hdigit : operatorChars.contains d = false := by
      have hall : digits.all fun d => !operatorChars.contains d := by decide
      simpa using List.all_eq_true.mp hall d (digit_cases hwhole.2.1)
    have hsignStep : Scan.gap.step sign = some ([], .operator [sign]) := by
      rcases hsign with rfl | rfl <;> rfl
    -- a digit ends the sign and does not join it
    have hstep : (Scan.operator [sign]).step d =
        some ([.operator (String.ofList [sign])], .number .whole [d]) := by
      rw [Scan.step, Scan.stepOperator.eq_def, hdigit]
      rcases hsign with rfl | rfl <;> simp [behind, begins_digit hwhole.2.1] <;> rfl
    rw [lex, List.cons_append, Scan.run_within hsignStep]
    rw [List.cons_append, List.cons_append, List.cons_append, lex,
      Scan.run_within (s := .gap) (begins_digit hwhole.2.1)] at hnumber
    rw [List.cons_append, List.cons_append, List.cons_append, Scan.run_cons hstep, hnumber]
    simp [Function.comp_def]

end Pushdown.Sql
