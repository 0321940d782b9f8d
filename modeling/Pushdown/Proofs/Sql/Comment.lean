import Pushdown.Proofs.Sql.Token

/-!
# `Proofs.Sql.Comment` — where a comment can begin

A comment begins with two characters that may also stand next to each other inside a quoted name or string. The
reader tells the two apart: behind any text it is in the middle of a quoted token, or in a comment, or two such
characters begin a comment now. So a text without comments has them between quotes only.

## Contents

* `Scan.reach`, `Scan.run_append` — a text that is read in two parts.
* `Scan.isQuoted`, `Scan.isComment` — states of the reader.
* `Scan.not_isComment_of_reach` — a comment that the reader is in has been found as a token.
* `Scan.mem_of_run_mark` — outside quotes the two characters begin a comment.
* `CommentFree`, `commentFree_of_lex` — texts without comments.
-/

namespace Pushdown.Sql

/-- The two characters that begin a comment: to the end of the line, or to a closing mark. -/
def commentMarks : List (Char × Char) := [('-', '-'), ('/', '*')]

namespace Scan

/-! ## Reading in parts -/

/-- The tokens that are complete behind a text, and what the reader is in the middle of there. -/
def reach : Scan → List Char → Option (List Token × Scan)
  | s, [] => some ([], s)
  | s, c :: cs =>
    match s.step c with
    | some (ts, s') => (reach s' cs).map fun (us, t) => (ts ++ us, t)
    | none => none

/-- Reading a text is reading its first part and going on from the state that is reached. -/
theorem run_append (s : Scan) (cs rest : List Char) :
    run s (cs ++ rest) = (reach s cs).bind fun (ts, t) => (run t rest).map (ts ++ ·) := by
  induction cs generalizing s with
  | nil => simp [reach]
  | cons c cs ih =>
    rw [List.cons_append, run, reach]
    cases s.step c with
    | none => rfl
    | some next =>
      simp only [ih]
      cases reach next.2 cs <;> simp [Function.comp_def]

/-- What is read as a whole is read in two parts. -/
theorem exists_reach_of_run {s : Scan} {cs rest : List Char} {ts : List Token}
    (h : run s (cs ++ rest) = some ts) :
    ∃ us t vs, reach s cs = some (us, t) ∧ run t rest = some vs ∧ ts = us ++ vs := by
  rw [run_append] at h
  obtain ⟨⟨us, t⟩, hreach, hrest⟩ := Option.bind_eq_some_iff.mp h
  obtain ⟨vs, hvs, rfl⟩ := Option.map_eq_some_iff.mp hrest
  exact ⟨us, t, vs, hreach, hvs, rfl⟩

/-- A step of the reader is the first part of a text. -/
theorem exists_step_of_run {s : Scan} {c : Char} {cs : List Char} {ts : List Token}
    (h : run s (c :: cs) = some ts) :
    ∃ us t vs, s.step c = some (us, t) ∧ run t cs = some vs ∧ ts = us ++ vs := by
  rw [run] at h
  split at h
  next us t hstep =>
    obtain ⟨vs, hvs, rfl⟩ := Option.map_eq_some_iff.mp h
    exact ⟨us, t, vs, hstep, hvs, rfl⟩
  · cases h

/-! ## Comments -/

/-- The reader is inside a quoted name or a string. -/
def isQuoted : Scan → Bool
  | .name _ | .string _ | .escape _ | .escapeBackslash _ => true
  | _ => false

/-- The reader is inside a comment. -/
def isComment : Scan → Bool
  | .lineComment | .blockComment _ _ => true
  | _ => false

/-- Whatever the step finds and leads to has a property. -/
def Ensures (P : List Token → Scan → Prop) (step : Option (List Token × Scan)) : Prop :=
  ∀ ts t, step = some (ts, t) → P ts t

/-- A comment that the reader is in has been found as a token. -/
def Announced (ts : List Token) (t : Scan) : Prop := t.isComment → Token.comment ∈ ts

section Steps

variable {P : List Token → Scan → Prop} {s t : Scan} {c : Char} {ts us : List Token}
variable {a b : Option (List Token × Scan)}

theorem ensures_none : Ensures P none := by
  intro ts t h
  cases h

theorem ensures_some (h : P ts t) : Ensures P (some (ts, t)) := by
  rintro us u ⟨⟩
  exact h

theorem ensures_ite {Q : Prop} [Decidable Q] (ha : Ensures P a) (hb : Ensures P b) :
    Ensures P (if Q then a else b) := by
  split
  · exact ha
  · exact hb

theorem announced_of_not_isComment (h : t.isComment = false) : Announced ts t := by
  intro hcomment
  rw [h] at hcomment
  cases hcomment

theorem ensures_state (h : t.isComment = false) : Ensures Announced (some (ts, t)) :=
  ensures_some (announced_of_not_isComment h)

theorem announced_begins : Ensures Announced (begins c) := by
  unfold begins
  iterate 9 refine ensures_ite (ensures_state rfl) ?_
  exact ensures_none

theorem announced_behind : Ensures Announced (behind us c) := by
  intro ts t h hcomment
  obtain ⟨next, hbegins, hresult⟩ := Option.map_eq_some_iff.mp h
  cases hresult
  exact List.mem_append_right us (announced_begins next.1 next.2 hbegins hcomment)

theorem announced_stringBehind (read : List Char) : Ensures Announced (stringBehind read) :=
  ensures_ite (ensures_state rfl) (ensures_ite ensures_none (ensures_state rfl))

/-- No comment begins inside a number. -/
theorem announced_stepNumber (part : NumberPart) (read : List Char) :
    Ensures Announced (stepNumber part read c) := by
  have hended : Ensures Announced (if isWordPart c || c = '.' then none
      else behind [.number (String.ofList read.reverse)] c) :=
    ensures_ite ensures_none announced_behind
  cases part with
  | whole =>
    exact ensures_ite (ensures_state rfl)
      (ensures_ite (ensures_state rfl) (ensures_ite (ensures_state rfl) hended))
  | fraction => exact ensures_ite (ensures_state rfl) (ensures_ite (ensures_state rfl) hended)
  | letter => exact ensures_ite (ensures_state rfl) (ensures_ite (ensures_state rfl) ensures_none)
  | sign => exact ensures_ite (ensures_state rfl) ensures_none
  | exponent => exact ensures_ite (ensures_state rfl) hended

/-- The one way into a comment is from an operator, whose tokens the comment follows. -/
theorem announced_stepOperator (read : List Char) : Ensures Announced (stepOperator read c) := by
  have hfound : ∀ t us, Ensures Announced (some (us ++ [.comment], t)) := by
    intro t us
    apply ensures_some
    intro _
    simp
  unfold stepOperator
  refine ensures_ite ?_ announced_behind
  cases read with
  | nil => exact ensures_state rfl
  | cons last before => exact ensures_ite (hfound _ _) (ensures_ite (hfound _ _) (ensures_state rfl))

/-- **A step into a comment leaves its token behind.** One case for each state of the reader; the only way in is from
an operator. -/
theorem announced_step (hs : s.isComment = false) : Ensures Announced (s.step c) := by
  cases s with
  | lineComment => cases hs
  | blockComment _ _ => cases hs
  | gap => exact announced_begins
  | line => exact ensures_ite ensures_none (ensures_ite (ensures_state rfl) announced_begins)
  | word read =>
    exact ensures_ite (ensures_state rfl)
      (ensures_ite (announced_stringBehind read) (ensures_ite ensures_none announced_behind))
  | number part read => exact announced_stepNumber part read
  | point => exact ensures_ite (ensures_state rfl) (ensures_ite ensures_none announced_behind)
  | operator read => exact announced_stepOperator read
  | name read | string read =>
    apply ensures_state
    split <;> rfl
  | escape read =>
    apply ensures_state
    repeat' split
    all_goals rfl
  | nameQuote read | stringQuote read | escapeQuote read =>
    exact ensures_ite (ensures_state rfl) announced_behind
  | escapeBackslash read =>
    intro ts t h
    obtain ⟨d, -, hresult⟩ := Option.map_eq_some_iff.mp h
    cases hresult
    exact announced_of_not_isComment rfl

/-- **A reader that has found no comment is in none.** -/
theorem not_isComment_of_reach {cs : List Char} (hs : s.isComment = false)
    (h : reach s cs = some (ts, t)) (hts : Token.comment ∉ ts) : t.isComment = false := by
  induction cs generalizing s ts with
  | nil =>
    cases h
    exact hs
  | cons c cs ih =>
    rw [reach] at h
    split at h
    next us s' hstep =>
      obtain ⟨⟨vs, t'⟩, hrest, hresult⟩ := Option.map_eq_some_iff.mp h
      cases hresult
      rw [List.mem_append, not_or] at hts
      -- The first step enters no comment, for none is among its tokens.
      have hs' : s'.isComment = false :=
        Bool.eq_false_iff.mpr fun hcomment => hts.1 (announced_step hs us s' hstep hcomment)
      exact ih hs' hrest hts.2
    · cases h

end Steps

/-! ## Marks -/

/-- Behind the first character of a mark stands an operator or the sign of an exponent, if the character does not
complete a mark itself. -/
def Opens (first : Char) (ts : List Token) (t : Scan) : Prop :=
  Token.comment ∈ ts ∨ (∃ read, t = .operator (first :: read)) ∨ ∃ read, t = .number .sign read

section Marks

variable {s t : Scan} {c : Char} {ts : List Token} {mark : Char × Char}

theorem opens_operator (us : List Token) (read : List Char) :
    Ensures (Opens c) (some (us, .operator (c :: read))) :=
  ensures_some (.inr (.inl ⟨read, rfl⟩))

/-- Behind an operator, a minus or a slash completes a mark or may begin one. -/
theorem opens_stepOperator (read : List Char) (hc : c = '-' ∨ c = '/') :
    Ensures (Opens c) (stepOperator read c) := by
  have hchar : operatorChars.contains c := by rcases hc with rfl | rfl <;> rfl
  have hstar : c ≠ '*' := by rcases hc with rfl | rfl <;> decide
  unfold stepOperator
  rw [if_pos hchar]
  cases read with
  | nil => exact opens_operator [] []
  | cons last before =>
    refine ensures_ite (ensures_some (.inl (by simp))) ?_
    simp only [hstar, decide_false, Bool.and_false, Bool.false_eq_true, if_false]
    exact opens_operator [] (last :: before)

/-- A minus behind the letter of an exponent is its sign; behind any other number a minus or a slash begins an
operator. -/
theorem opens_stepNumber (part : NumberPart) (read : List Char) (hc : c = '-' ∨ c = '/') :
    Ensures (Opens c) (stepNumber part read c) := by
  rcases hc with rfl | rfl
  · cases part with
    | whole | fraction | exponent => exact opens_operator _ _
    | letter => exact ensures_some (.inr (.inr ⟨_, rfl⟩))
    | sign => exact ensures_none
  · cases part with
    | whole | fraction | exponent => exact opens_operator _ _
    | letter | sign => exact ensures_none

/-- Outside quotes and comments a minus or a slash opens a mark. -/
theorem opens_step (hc : c = '-' ∨ c = '/') (hquoted : s.isQuoted = false)
    (hcomment : s.isComment = false) : Ensures (Opens c) (s.step c) := by
  cases s with
  | lineComment => cases hcomment
  | blockComment _ _ => cases hcomment
  | name _ | string _ | escape _ | escapeBackslash _ => cases hquoted
  | number part read => exact opens_stepNumber part read hc
  | operator read => exact opens_stepOperator read hc
  | gap | line | word _ | point | nameQuote _ | stringQuote _ | escapeQuote _ =>
    -- Such a character is no part of any other token.
    rcases hc with rfl | rfl <;> exact opens_operator _ []

/-- **Outside quotes and comments the two characters of a mark begin a comment.** -/
theorem mem_of_run_mark {rest : List Char} (hmark : mark ∈ commentMarks) (hquoted : s.isQuoted = false)
    (hcomment : s.isComment = false) (h : run s (mark.1 :: mark.2 :: rest) = some ts) :
    Token.comment ∈ ts := by
  have hmarks : mark = ('-', '-') ∨ mark = ('/', '*') := by simpa [commentMarks] using hmark
  have hfirst : mark.1 = '-' ∨ mark.1 = '/' := by
    rcases hmarks with rfl | rfl
    · exact .inl rfl
    · exact .inr rfl
  obtain ⟨us, t, vs, hstep, hrest, rfl⟩ := exists_step_of_run h
  obtain ⟨us', t', vs', hstep', -, rfl⟩ := exists_step_of_run hrest
  rcases opens_step hfirst hquoted hcomment us t hstep with hfound | ⟨read, rfl⟩ | ⟨read, rfl⟩
  · exact List.mem_append_left _ hfound
  · have hfound : us' = operatorTokens read ++ [.comment] := by
      rcases hmarks with rfl | rfl <;> cases hstep' <;> rfl
    simp [hfound]
  · -- The sign of an exponent needs a digit behind it.
    rcases hmarks with rfl | rfl <;> cases hstep'

end Marks

end Scan

/-- The text falls into tokens, none of them is a comment, and what would begin one stands in the middle of a quoted
name or string. -/
structure CommentFree (cs : List Char) : Prop where
  lexes : ∃ ts, lex cs = some ts ∧ Token.comment ∉ ts
  quoted : ∀ mark ∈ commentMarks, ∀ before rest, cs = before ++ mark.1 :: mark.2 :: rest →
    ∃ ts s, Scan.reach .gap before = some (ts, s) ∧ s.isQuoted

/-- **A text without comment tokens has their marks between quotes only.** -/
theorem commentFree_of_lex {cs : List Char} {ts : List Token} (h : lex cs = some ts)
    (hts : Token.comment ∉ ts) : CommentFree cs := by
  refine ⟨⟨ts, h, hts⟩, ?_⟩
  rintro mark hmark before rest rfl
  obtain ⟨us, s, vs, hreach, hrest, rfl⟩ := Scan.exists_reach_of_run h
  rw [List.mem_append, not_or] at hts
  refine ⟨us, s, hreach, ?_⟩
  cases hquoted : s.isQuoted with
  | true => rfl
  | false =>
    have hcomment := Scan.not_isComment_of_reach rfl hreach hts.1
    exact absurd (Scan.mem_of_run_mark hmark hquoted hcomment hrest) hts.2

end Pushdown.Sql
