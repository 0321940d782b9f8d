import Pushdown.Proofs.Sql.Spelling

/-!
# `Proofs.Sql.Constant` — which texts come back from the string constant they are printed as

A constant reads as a given text only if it has every quote of it twice. So a printed constant reads as its text exactly
if the printer wrote every quote twice, which it does as long as no quote of the text looks escaped to it. Otherwise
the constant ends too early or reads as something else.

## Contents

* `Scan.holds`, `run_ne_nil` — a token that is begun is completed or refused.
* `eq_double_of_run_string` — what reads as one string constant has every quote of its text twice.
* `lex_quoted_iff` — the texts that a printed constant reads as.
-/

namespace Pushdown.Sql

open Scan (begins behind run)

/-! ## Tokens that are begun -/

/-- Characters of operators make at least one token, however signs are split off. -/
theorem operatorTokens_ne_nil {read : List Char} (h : read ≠ []) : operatorTokens read ≠ [] := by
  unfold operatorTokens
  split
  · simp
  · intro hnil
    obtain ⟨hbody, hsigns⟩ := List.append_eq_nil_iff.mp hnil
    have hdrop : read.dropWhile isSign = [] := by
      by_contra hne
      simp [hne] at hbody
    have htake : read.takeWhile isSign = [] := by simpa using hsigns
    apply h
    rw [← List.takeWhile_append_dropWhile (p := isSign) (l := read), htake, hdrop]
    rfl

namespace Scan

/-- The reader is in the middle of a token. -/
def holds : Scan → Bool
  | .gap | .line | .lineComment | .blockComment _ _ => false
  | .operator read => !read.isEmpty
  | _ => true

/-- The reader is between tokens. -/
def idle : Scan → Bool
  | .gap | .line => true
  | _ => false

/-- The step completes a token, or it leads to such a state. -/
def LeadsTo (p : Scan → Bool) (step : Option (List Token × Scan)) : Prop :=
  ∀ ts t, step = some (ts, t) → ts ≠ [] ∨ p t

section Steps

variable {p : Scan → Bool} {s t : Scan} {c : Char} {ts : List Token} {a b : Option (List Token × Scan)}

theorem leadsTo_none : LeadsTo p none := by
  intro ts t h
  cases h

theorem leadsTo_state (h : p t) : LeadsTo p (some (ts, t)) := by
  rintro us u ⟨⟩
  exact .inr h

theorem leadsTo_tokens (h : ts ≠ []) : LeadsTo p (some (ts, t)) := by
  rintro us u ⟨⟩
  exact .inl h

theorem leadsTo_behind (h : ts ≠ []) : LeadsTo p (behind ts c) := by
  intro us t hstep
  obtain ⟨next, -, hresult⟩ := Option.map_eq_some_iff.mp hstep
  cases hresult
  simp [h]

theorem leadsTo_ite {P : Prop} [Decidable P] (ha : LeadsTo p a) (hb : LeadsTo p b) :
    LeadsTo p (if P then a else b) := by
  split
  · exact ha
  · exact hb

theorem leadsTo_stringBehind (read : List Char) : LeadsTo holds (stringBehind read) :=
  leadsTo_ite (leadsTo_state rfl) (leadsTo_ite leadsTo_none (leadsTo_state rfl))

/-- A number goes on, is completed, or is refused. -/
theorem leadsTo_stepNumber (part : NumberPart) (read : List Char) :
    LeadsTo holds (stepNumber part read c) := by
  have hended : LeadsTo holds (if isWordPart c || c = '.' then none
      else behind [.number (String.ofList read.reverse)] c) :=
    leadsTo_ite leadsTo_none (leadsTo_behind (by simp))
  cases part with
  | whole =>
    exact leadsTo_ite (leadsTo_state rfl) (leadsTo_ite (leadsTo_state rfl) (leadsTo_ite (leadsTo_state rfl) hended))
  | fraction => exact leadsTo_ite (leadsTo_state rfl) (leadsTo_ite (leadsTo_state rfl) hended)
  | letter => exact leadsTo_ite (leadsTo_state rfl) (leadsTo_ite (leadsTo_state rfl) leadsTo_none)
  | sign => exact leadsTo_ite (leadsTo_state rfl) leadsTo_none
  | exponent => exact leadsTo_ite (leadsTo_state rfl) hended

/-- An operator goes on or is completed. -/
theorem leadsTo_stepOperator {read : List Char} (h : read ≠ []) : LeadsTo holds (stepOperator read c) := by
  unfold stepOperator
  refine leadsTo_ite ?_ (leadsTo_behind (operatorTokens_ne_nil h))
  cases read with
  | nil => exact absurd rfl h
  | cons last before =>
    exact leadsTo_ite (leadsTo_tokens (by simp)) (leadsTo_ite (leadsTo_tokens (by simp)) (leadsTo_state rfl))

/-- A token that is begun goes on, or it is completed. -/
theorem leadsTo_step_of_holds (hs : s.holds) : LeadsTo holds (s.step c) := by
  cases s with
  | gap | line | lineComment => cases hs
  | blockComment _ _ => cases hs
  | word read =>
    exact leadsTo_ite (leadsTo_state rfl)
      (leadsTo_ite (leadsTo_stringBehind read) (leadsTo_ite leadsTo_none (leadsTo_behind (by simp))))
  | number part read => exact leadsTo_stepNumber part read
  | point => exact leadsTo_ite (leadsTo_state rfl) (leadsTo_ite leadsTo_none (leadsTo_behind (by simp)))
  | operator read => exact leadsTo_stepOperator (by simpa [holds] using hs)
  | name read | string read =>
    apply leadsTo_state
    split <;> rfl
  | escape read =>
    apply leadsTo_state
    repeat' split
    all_goals rfl
  | nameQuote read | stringQuote read | escapeQuote read =>
    exact leadsTo_ite (leadsTo_state rfl) (leadsTo_behind (by simp))
  | escapeBackslash read =>
    intro ts t h
    obtain ⟨d, -, hresult⟩ := Option.map_eq_some_iff.mp h
    cases hresult
    exact .inr rfl

/-- Between tokens, a character begins a token, or it is nothing but a gap. -/
theorem leadsTo_begins : LeadsTo (fun t => t.holds || t.idle) (begins c) := by
  unfold begins
  iterate 6 refine leadsTo_ite (leadsTo_state rfl) ?_
  refine leadsTo_ite (leadsTo_tokens (by simp)) ?_
  exact leadsTo_ite (leadsTo_state rfl) (leadsTo_ite (leadsTo_state rfl) leadsTo_none)

theorem leadsTo_step_of_idle (hs : s.idle) : LeadsTo (fun t => t.holds || t.idle) (s.step c) := by
  cases s with
  | gap => exact leadsTo_begins
  | line => exact leadsTo_ite leadsTo_none (leadsTo_ite (leadsTo_state rfl) leadsTo_begins)
  | _ => cases hs

/-- A quote is no gap. -/
theorem leadsTo_step_quote (hs : s.idle) : LeadsTo holds (s.step '\'') := by
  cases s with
  | gap => exact leadsTo_state rfl
  | line => exact leadsTo_none
  | _ => cases hs

/-- A token that is begun at the end of the text is completed there or refused. -/
theorem finish_ne_nil (hs : s.holds) : s.finish ≠ some [] := by
  cases s with
  | operator read =>
    have hread : read ≠ [] := by simpa [holds] using hs
    simpa [finish] using operatorTokens_ne_nil hread
  | number part read =>
    rw [finish]
    split <;> simp
  | gap | line | lineComment => cases hs
  | _ => simp [finish]

/-- No step of the reader loses what it completes. -/
theorem exists_step_of_run_eq_nil {cs : List Char} (h : run s (c :: cs) = some []) :
    ∃ t, s.step c = some ([], t) ∧ run t cs = some [] := by
  rw [run] at h
  split at h
  next ts t hstep =>
    obtain ⟨us, hus, hnil⟩ := Option.map_eq_some_iff.mp h
    obtain ⟨rfl, rfl⟩ := List.append_eq_nil_iff.mp hnil
    exact ⟨t, hstep, hus⟩
  · cases h

/-- A reader in the middle of a token finds at least this token. -/
theorem run_ne_nil (hs : s.holds) (cs : List Char) : run s cs ≠ some [] := by
  induction cs generalizing s with
  | nil => exact finish_ne_nil hs
  | cons c cs ih =>
    intro h
    obtain ⟨t, hstep, hrest⟩ := exists_step_of_run_eq_nil h
    rcases leadsTo_step_of_holds hs [] t hstep with hnil | ht
    · exact hnil rfl
    · exact ih ht hrest

/-- A text without tokens has no quotes. -/
theorem not_mem_of_run_eq_nil {cs : List Char} (hs : s.idle) (h : run s cs = some []) : '\'' ∉ cs := by
  induction cs generalizing s with
  | nil => simp
  | cons c cs ih =>
    obtain ⟨t, hstep, hrest⟩ := exists_step_of_run_eq_nil h
    -- Nothing is found in what is left, so no token is begun there.
    have hholds : t.holds = false := Bool.eq_false_iff.mpr fun ht => run_ne_nil ht cs hrest
    have hc : c ≠ '\'' := by
      rintro rfl
      rcases leadsTo_step_quote hs [] t hstep with hnil | ht
      · exact hnil rfl
      · rw [hholds] at ht
        cases ht
    have hidle : t.idle := by
      rcases leadsTo_step_of_idle hs [] t hstep with hnil | ht
      · exact absurd rfl hnil
      · simpa [hholds] using ht
    simp [Ne.symm hc, ih hidle hrest]

end Steps

end Scan

/-! ## Constants that read as a given text -/

/-- A string that ends in front of the last quote is not the only token, so a quote in front of it goes with
another. -/
theorem exists_of_run_stringQuote {body read : List Char} {w : String}
    (h : run (.stringQuote read) (body ++ ['\'']) = some [.string w]) :
    ∃ rest, body = '\'' :: rest ∧ run (.string ('\'' :: read)) (rest ++ ['\'']) = some [.string w] := by
  cases body with
  | nil => cases h
  | cons c rest =>
    by_cases hc : c = '\''
    · subst hc
      exact ⟨rest, rfl, (Scan.run_within (s := .stringQuote read) rfl _).symm.trans h⟩
    · -- The string ends here, and the last quote would have to be part of a second token.
      exfalso
      have hstep : (Scan.stringQuote read).step c = behind [.string (String.ofList read.reverse)] c := if_neg hc
      rw [List.cons_append, Scan.run_of_behind hstep] at h
      obtain ⟨us, hus, hresult⟩ := Option.map_eq_some_iff.mp h
      obtain ⟨-, rfl⟩ := List.cons.inj hresult
      exact Scan.not_mem_of_run_eq_nil (s := .gap) rfl hus (by simp)

/-- **What reads as one string constant has every quote of its text twice.** -/
theorem eq_double_of_run_string {body read : List Char} {w : String}
    (h : run (.string read) (body ++ ['\'']) = some [.string w]) :
    ∃ text, body = Text.double '\'' text ∧ w = String.ofList (read.reverse ++ text) := by
  -- Two quotes are read at once, so the induction is on the length.
  induction hlength : body.length using Nat.strong_induction_on generalizing body read with
  | h n ih =>
    cases body with
    | nil =>
      have hw : some [Token.string (String.ofList read.reverse)] = some [.string w] := h
      cases hw
      exact ⟨[], rfl, by simp⟩
    | cons c body =>
      rw [List.length_cons] at hlength
      by_cases hc : c = '\''
      · subst hc
        have hquote : run (.stringQuote read) (body ++ ['\'']) = some [.string w] :=
          (Scan.run_within (s := .string read) rfl _).symm.trans h
        obtain ⟨rest, rfl, hrest⟩ := exists_of_run_stringQuote hquote
        rw [List.length_cons] at hlength
        obtain ⟨text, rfl, rfl⟩ := ih rest.length (by omega) hrest rfl
        exact ⟨'\'' :: text, by simp [Text.double], by simp⟩
      · have hstep : (Scan.string read).step c = some ([], .string (c :: read)) := by
          rw [Scan.step, if_neg hc]
        obtain ⟨text, rfl, rfl⟩ := ih body.length (by omega) ((Scan.run_within hstep _).symm.trans h) rfl
        exact ⟨c :: text, by simp [Text.double, hc], by simp⟩

/-- **A printed constant reads as its text exactly if no quote of the text looks escaped.** -/
theorem lex_quoted_iff (v : String) :
    lex (Text.quoted '\'' v) = some [.string v] ↔ v.toList.IsChain (Text.Unescaped '\'') := by
  rw [← Text.protect_eq_double_iff (by decide)]
  have hlex : lex (Text.quoted '\'' v) = run (.string []) (Text.protect '\'' .plain v.toList ++ ['\'']) :=
    Scan.run_within rfl _
  rw [hlex]
  constructor
  · intro h
    obtain ⟨text, hbody, hv⟩ := eq_double_of_run_string h
    rw [hbody, hv]
    simp
  · intro h
    rw [h, run_string]
    simp [run, Scan.finish]

end Pushdown.Sql
