import Pushdown.Proofs.Sql.Parser

/-!
# `Proofs.Sql.Unambiguous` — phrases grouped by precedence are read from their tokens

Every phrase that is grouped by precedence is what the reader makes of its tokens. So no two of them have the same
tokens, and the grouping need not be guessed.

A phrase is followed through the reader together with what comes behind it: the reader has the phrase in its hands
exactly when it begins to look at the rest (`Parses`). What comes behind must not be something that the last
operator of the phrase would take (`Stops`).

## Contents

* `Stops` — what may follow a phrase without becoming a part of it.
* `Parses` — a phrase is read from its tokens, whatever may follow.
* `parses_of_head`, `parses_of_link` — operands, and operands with what takes them; then one lemma for each form.
* `parse_tokens`, `tokens_injective` — phrases grouped by precedence.
-/

namespace Pushdown.Sql

/-! ## What may follow a phrase -/

/-- The tokens may follow a phrase whose operators reach up to the level. What waits for an ESCAPE is not followed by
one. -/
def Stops (level : Nat) (escapes : Bool) (rest : List Token) : Prop :=
  ∀ t ∈ rest.head?, (∃ l ∈ t.follow?, l ≤ level) ∧ (escapes → t ≠ .word "ESCAPE")

section Following

variable {low escapes : Bool} {least level : Nat} {t : Token} {link : Link} {p : Phrase Token} {rest : List Token}

theorem Stops.mono {higher : Nat} {fewer : Bool} (h : Stops level escapes rest) (hle : level ≤ higher)
    (hfewer : fewer → escapes) : Stops higher fewer rest := by
  intro t ht
  obtain ⟨⟨l, hl, hlevel⟩, hescape⟩ := h t ht
  exact ⟨⟨l, hl, Nat.le_trans hlevel hle⟩, fun hf => hescape (hfewer hf)⟩

/-- What takes an operand inside a lower bound takes one everywhere, so that it follows at its own level. -/
theorem follow?_of_link? (h : t.link? low = some link) : t.follow? = some link.level := by
  have hfalse : t.link? false = some link := by
    cases low with
    | false => exact h
    | true =>
      unfold Token.link? at h ⊢
      cases ho : Operator.ofToken? t with
      | none => simp [ho] at h
      | some o => cases hw : o.isWord <;> simp_all
  simp [Token.follow?, hfalse]

/-- What takes an operand is no ESCAPE. -/
theorem stops_link (h : t.link? low = some link) (hlevel : link.level ≤ level) :
    Stops level escapes (t :: rest) := by
  intro s hs
  cases hs
  refine ⟨⟨link.level, follow?_of_link? h, hlevel⟩, ?_⟩
  rintro - rfl
  have hnone : ∀ low, (Token.word "ESCAPE").link? low = none := by decide
  rw [hnone low] at h
  cases h

theorem follow?_delimiter (h : t ∈ Token.delimiters) : t.follow? = some 0 := by
  have hall : ∀ t ∈ Token.delimiters, t.follow? = some 0 := by decide
  exact hall t h

theorem link?_delimiter (h : t ∈ Token.delimiters) : t.link? low = none := by
  have hall : ∀ t ∈ Token.delimiters, ∀ low, t.link? low = none := by decide
  exact hall t h low

/-- A delimiter may follow any phrase. -/
theorem stops_delimiter (h : t ∈ Token.delimiters) : Stops level escapes (t :: rest) := by
  intro s hs
  cases hs
  refine ⟨⟨0, follow?_delimiter h, Nat.zero_le _⟩, ?_⟩
  rintro - rfl
  exact absurd h (by decide)

/-- Neither a parenthesis nor a dot nor a string follows a phrase. -/
theorem not_stops_of_follow?_eq_none (h : t.follow? = none) : ¬ Stops level escapes (t :: rest) := by
  intro hstops
  obtain ⟨⟨l, hl, -⟩, -⟩ := hstops t rfl
  rw [h] at hl
  cases hl

theorem parseTail_unlinked (h : t.link? low = none) :
    parseTail low least p (t :: rest) = some (p, t :: rest) := by
  rw [parseTail]
  simp [h]

/-- What follows a phrase is left alone if it is too loose. -/
theorem parseTail_stops (h : Stops level escapes rest) (hlevel : level < least) :
    parseTail low least p rest = some (p, rest) := by
  cases rest with
  | nil =>
    rw [parseTail]
  | cons t rest =>
    cases hlink : t.link? low with
    | none => exact parseTail_unlinked hlink
    | some link =>
      obtain ⟨⟨l, hl, hle⟩, -⟩ := h t rfl
      rw [follow?_of_link? hlink] at hl
      cases hl
      rw [parseTail]
      simp [hlink, Nat.lt_of_le_of_lt hle hlevel]

end Following

/-! ## Phrases that are read from their tokens -/

/-- The phrase is read from its tokens, and what may follow is read behind it. -/
def Parses (p : Phrase Token) : Prop :=
  ∀ (low : Bool) least rest, (low → p.isLow) → least ≤ p.floor → Stops p.limit p.takesEscape rest →
    parseExpr low least (p.tokens ++ rest) = parseTail low least p rest

section Parses

variable {p left : Phrase Token} {ps : List (Phrase Token)}

/-- In front of a delimiter, a phrase is read alone. -/
theorem Parses.delimited (h : Parses p) {t : Token} (ht : t ∈ Token.delimiters) (rest : List Token) :
    parseExpr false 0 (p.tokens ++ t :: rest) = some (p, t :: rest) := by
  rw [h false 0 (t :: rest) (by simp) (Nat.zero_le _) (stops_delimiter ht)]
  exact parseTail_unlinked (link?_delimiter ht)

/-- As the last operand of an operator, a phrase is read alone if what follows is no tighter than the operator. -/
theorem Parses.operand (h : Parses p) {low escapes : Bool} {least level : Nat} {rest : List Token}
    (hlow : low → p.isLow) (hfloor : least ≤ p.floor) (hstops : Stops level escapes rest)
    (hlimit : level ≤ p.limit) (hescapes : p.takesEscape → escapes) (hlevel : level < least) :
    parseExpr low least (p.tokens ++ rest) = some (p, rest) := by
  rw [h low least rest hlow hfloor (hstops.mono hlimit hescapes)]
  exact parseTail_stops hstops hlevel

/-- A phrase that is one operand is read. -/
theorem parses_of_head (h : ∀ (low : Bool) rest, (low → p.isLow) → Stops p.limit p.takesEscape rest →
    parseHead low (p.tokens ++ rest) = some (p, rest)) : Parses p := by
  intro low least rest hlow _ hstops
  rw [parseExpr, h low rest hlow hstops]
  simp

/-- A phrase that is an operand and what takes it is read, if the operand is and the rest is. -/
theorem parses_of_link (link : Link) (t : Token) (ts : List Token) (hleft : Parses left)
    (htokens : p.tokens = left.tokens ++ t :: ts) (hfloor : p.floor = min link.level left.floor)
    (hlow : p.isLow → left.isLow) (ht : ∀ low : Bool, (low → p.isLow) → t.link? low = some link)
    (hlevel : link.level ≤ left.limit)
    (hlink : ∀ (low : Bool) rest, (low → p.isLow) → Stops p.limit p.takesEscape rest →
      parseLink low left link (ts ++ rest) = some (p, rest)) : Parses p := by
  intro low least rest hp hleast hstops
  have htoken := ht low hp
  -- the two tests of the reader before it lets the operand be taken
  have hloose : ¬ link.level < least := by omega
  have hclosed : ¬ left.ceiling < link.level := by
    have := left.limit_le_ceiling
    omega
  have hread := hleft low least (t :: (ts ++ rest)) (fun hl => hlow (hp hl)) (by omega)
    (stops_link htoken hlevel)
  rw [htokens, List.append_assoc, List.cons_append, hread, parseTail]
  simp [htoken, hloose, hclosed, hlink low rest hp hstops]

end Parses

/-! ### Operands -/

section Operands

variable {p : Phrase Token} {ps : List (Phrase Token)}

/-- A single token is read alone: neither a dot nor a bracket nor a string may follow, any of which would make a name
or a word the beginning of something longer. -/
theorem parses_atom {t : Token} (h : t.isValue) : Parses (.atom t) := by
  refine parses_of_head fun low rest _ hstops => ?_
  show parseHead low (t :: rest) = some (.atom t, rest)
  cases t with
  | number text => rw [parseHead]
  | string text => rw [parseHead]
  | name text =>
    -- a dot would make it the name of a table
    have hname : readName text rest = (.atom (.name text), rest) := by
      unfold readName
      split
      · exact absurd hstops (not_stops_of_follow?_eq_none (by decide))
      · rfl
    rw [parseHead]
    simp only [hname]
  | word text =>
    have hlead : lead text = .plain := by simpa [Token.isValue] using h
    rw [parseHead, parseWord.eq_def, hlead]
    cases rest with
    | nil => rfl
    | cons next rest =>
      cases next with
      | mark c =>
        have hc : c ≠ '(' := by
          rintro rfl
          exact absurd hstops (not_stops_of_follow?_eq_none (by decide))
        simp [hc]
      | string s => exact absurd hstops (not_stops_of_follow?_eq_none rfl)
      | _ => rfl
  | operator text => cases h
  | mark c => cases h
  | comment => cases h

theorem parses_path {qualifier name : Token} (hq : qualifier.isName) (hn : name.isName) :
    Parses (.path qualifier name) := by
  refine parses_of_head fun low rest _ _ => ?_
  match qualifier, name, hq, hn with
  | .name q, .name n, _, _ =>
    show parseHead low (.name q :: .mark '.' :: .name n :: rest) = _
    rw [parseHead, readName]

theorem parses_typed {type : String} {text : Token} (htype : lead type = .plain) (htext : text.isString) :
    Parses (.typed type text) := by
  refine parses_of_head fun low rest _ _ => ?_
  match text, htext with
  | .string s, _ =>
    show parseHead low (.word type :: .string s :: rest) = _
    rw [parseHead, parseWord, htype]

/-- Phrases between commas are read up to the closing parenthesis. -/
theorem parseList_listed (hne : ps ≠ []) (h : ∀ p ∈ ps, Parses p) (rest : List Token) :
    parseList (listed id (yieldAll id ps) ++ .mark ')' :: rest) = some (ps, .mark ')' :: rest) := by
  induction ps with
  | nil => exact absurd rfl hne
  | cons p ps ih =>
    have hp := h p (by simp)
    cases ps with
    | nil =>
      have hread := hp.delimited (t := .mark ')') (by decide) rest
      have hlast : expect (.mark ',') (.mark ')' :: rest) = none := expect_of_head?_ne (by simp)
      rw [parseList]
      simp [yieldAll, hread, hlast]
    | cons q ps =>
      have hrest := ih (by simp) fun r hr => h r (by simp [hr])
      have hread := hp.delimited (t := .mark ',') (by decide)
        (listed id (yieldAll id (q :: ps)) ++ .mark ')' :: rest)
      have htokens : listed id (yieldAll id (p :: q :: ps)) ++ .mark ')' :: rest =
          p.tokens ++ .mark ',' :: (listed id (yieldAll id (q :: ps)) ++ .mark ')' :: rest) := by
        simp [yieldAll]
      rw [htokens, parseList, hread]
      simp [hrest]

/-- Phrases between parentheses are one operand. -/
theorem parseHead_bracketed (hne : ps ≠ []) (h : ∀ p ∈ ps, Parses p) (low : Bool) (rest : List Token) :
    parseHead low (bracketed id (listed id (yieldAll id ps)) ++ rest) = some (bracket ps, rest) := by
  have hlist := parseList_listed hne h rest
  simp only [bracketed, id_eq, List.cons_append, List.append_assoc, List.nil_append]
  rw [parseHead]
  simp [hlist]

theorem parses_group (h : Parses p) : Parses (.group p) := by
  refine parses_of_head fun low rest _ _ => ?_
  have hread := parseHead_bracketed (List.cons_ne_nil p []) (by simpa using h) low rest
  simpa [yieldAll, Phrase.yield, bracket] using hread

theorem parses_row (hlength : 2 ≤ ps.length) (h : ∀ p ∈ ps, Parses p) : Parses (.row ps) := by
  refine parses_of_head fun low rest _ _ => ?_
  have hread := parseHead_bracketed (by rintro rfl; simp at hlength) h low rest
  match ps, hlength with
  | _ :: _ :: _, _ => exact hread

/-- A phrase begins with a token that expressions begin with. -/
theorem starts_tokens : ∀ {p : Phrase Token}, p.wellGrouped → ∃ t ∈ p.tokens.head?, t.starts
  | .atom t, h => by
    refine ⟨t, rfl, ?_⟩
    cases t with
    | word text =>
      have hlead : lead text = .plain := by simpa [Phrase.wellGrouped, Token.isValue] using h
      simp [Token.starts, hlead]
    | number text => rfl
    | string text => rfl
    | name text => rfl
    | _ => cases h
  | .path qualifier name, h => by
    simp only [Phrase.wellGrouped, Bool.and_eq_true] at h
    refine ⟨qualifier, rfl, ?_⟩
    cases qualifier with
    | name text => rfl
    | _ => cases h.1
  | .typed type text, h => by
    simp only [Phrase.wellGrouped, Bool.and_eq_true, decide_eq_true_eq] at h
    exact ⟨.word type, rfl, by simp [Token.starts, h.1]⟩
  | .group _, _ | .row _, _ => ⟨.mark '(', rfl, rfl⟩
  | .call name _ _, h => by
    simp only [Phrase.wellGrouped, Bool.and_eq_true, decide_eq_true_eq] at h
    exact ⟨.word name, rfl, by simp [Token.starts, h.1]⟩
  | .callStar name, h => by
    simp only [Phrase.wellGrouped, decide_eq_true_eq] at h
    exact ⟨.word name, rfl, by simp [Token.starts, h]⟩
  | .callNamed name _ _, h => by
    simp only [Phrase.wellGrouped, Bool.and_eq_true, decide_eq_true_eq] at h
    exact ⟨.word name, rfl, by simp [Token.starts, h.1]⟩
  | .cast _ _, _ => ⟨.word "CAST", rfl, by decide⟩
  | .extract _ _, _ => ⟨.word "EXTRACT", rfl, by decide⟩
  | .case _ _ _, _ => ⟨.word "CASE", rfl, by decide⟩
  | .sign negative _, _ => ⟨signToken negative, rfl, by cases negative <;> decide⟩
  | .not _, _ => ⟨.word "NOT", rfl, by decide⟩
  | .binary _ left _, h | .like left _ _, h | .between left _ _, h | .inList left _, h
  | .isNull _ left, h => by
    simp only [Phrase.wellGrouped, Bool.and_eq_true] at h
    obtain ⟨t, hhead, ht⟩ := starts_tokens (p := left) (by simp [h])
    refine ⟨t, ?_, ht⟩
    rw [Option.mem_def] at hhead ⊢
    simp [Phrase.yield, List.head?_append, hhead]

/-- What is an expression does not begin like an argument that is passed by name. -/
theorem readParameter_eq_none (h : Parses p) {t : Token} (ht : t ∈ Token.delimiters) (rest : List Token) :
    readParameter (p.tokens ++ t :: rest) = none := by
  have hread := h.delimited ht rest
  generalize p.tokens ++ t :: rest = ts at hread
  unfold readParameter
  split
  next parameter behind =>
    split
    next hplain =>
      -- A plain word is an operand by itself, and no expression goes on with an arrow.
      have hword : parseExpr false 0 (.word parameter :: .operator "=>" :: behind) =
          some (.atom (.word parameter), .operator "=>" :: behind) := by
        have hhead : parseHead false (.word parameter :: .operator "=>" :: behind) =
            some (.atom (.word parameter), .operator "=>" :: behind) := by
          rw [parseHead, parseWord.eq_def, hplain]
        have harrow : Token.link? false (.operator "=>") = none := by decide
        rw [parseExpr, hhead]
        simp [parseTail_unlinked harrow]
      rw [hread] at hword
      cases hword
      exact absurd ht (by decide)
    · rfl
  · rfl

/-- The arguments of a call are read up to the closing parenthesis. -/
theorem parseCall_arguments {distinct : Bool} (hdistinct : distinct → ps ≠ [])
    (hg : ∀ p ∈ ps, p.wellGrouped) (h : ∀ p ∈ ps, Parses p) (name : String) (rest : List Token) :
    parseCall name ((if distinct then [.word "DISTINCT"] else []) ++ listed id (yieldAll id ps) ++
      .mark ')' :: rest) = some (.call name distinct ps, rest) := by
  rw [parseCall]
  cases distinct with
  | true => simp [parseList_listed (hdistinct rfl) h]
  | false =>
    cases ps with
    | nil => simp [yieldAll]
    | cons p ps =>
      -- The first argument begins with none of the three tokens that make another call of it.
      obtain ⟨t, hhead, ht⟩ := starts_tokens (hg p (by simp))
      have hlisted : (listed id (yieldAll id (p :: ps)) ++ .mark ')' :: rest).head? = some t := by
        rw [Option.mem_def] at hhead
        cases ps <;> simp [yieldAll, List.head?_append, hhead]
      have hother : t ∉ [.mark ')', .operator "*", .word "DISTINCT"] := by
        intro hmem
        have hall : ∀ s ∈ [Token.mark ')', .operator "*", .word "DISTINCT"], ¬ s.starts := by decide
        exact hall t hmem ht
      simp only [List.mem_cons, List.not_mem_nil, or_false, not_or] at hother
      have hparameter : readParameter (listed id (yieldAll id (p :: ps)) ++ .mark ')' :: rest) = none := by
        have hp := h p (by simp)
        cases ps with
        | nil => simpa [yieldAll] using readParameter_eq_none hp (t := .mark ')') (by decide) rest
        | cons q qs =>
          simpa [yieldAll] using readParameter_eq_none hp (t := .mark ',') (by decide)
            (listed id (yieldAll id (q :: qs)) ++ .mark ')' :: rest)
      simp only [Bool.false_eq_true, if_false, List.nil_append, hlisted, Option.some.injEq, hother]
      simp [hparameter, parseList_listed (List.cons_ne_nil p ps) h]

/-- A call is read up to its closing bracket. No argument begins like the other forms of a call, which is why the
arguments are to be grouped well. -/
theorem parses_call {name : String} {distinct : Bool} (hname : lead name = .plain)
    (hdistinct : distinct → ps ≠ []) (hg : ∀ p ∈ ps, p.wellGrouped) (h : ∀ p ∈ ps, Parses p) :
    Parses (.call name distinct ps) := by
  refine parses_of_head fun low rest _ _ => ?_
  have hcall := parseCall_arguments hdistinct hg h name rest
  rw [List.append_assoc] at hcall
  simp only [Phrase.yield, bracketed, id_eq, List.cons_append, List.append_assoc, List.nil_append]
  rw [parseHead, parseWord, hname]
  simpa using hcall

/-- A call with a named parameter is told from all others by the arrow behind the first word. -/
theorem parses_callNamed {name parameter : String} (hname : lead name = .plain)
    (hparameter : lead parameter = .plain) (h : Parses p) : Parses (.callNamed name parameter p) := by
  refine parses_of_head fun low rest _ _ => ?_
  have hargument := h.delimited (t := .mark ')') (by decide) rest
  have hbehind (ts : List Token) : ts.length ≤ (Token.word parameter :: .operator "=>" :: ts).length :=
    Nat.le_add_right ts.length 2
  have hdistinct : parameter ≠ "DISTINCT" := by
    rintro rfl
    exact absurd hparameter (by decide)
  simp only [Phrase.yield, bracketed, id_eq, List.cons_append, List.append_assoc, List.nil_append]
  rw [parseHead, parseWord, hname]
  simp [parseCall, readParameter, hparameter, hdistinct, within_some (hbehind _), hargument]

theorem parses_callStar {name : String} (hname : lead name = .plain) : Parses (.callStar name) := by
  refine parses_of_head fun low rest _ _ => ?_
  simp only [Phrase.yield, bracketed, id_eq, List.cons_append, List.nil_append]
  rw [parseHead, parseWord, hname]
  simp [parseCall]

/-- A type is read up to the closing parenthesis. -/
theorem readType_append {type : List Token} (h : isType type) (rest : List Token) :
    readType (type ++ .mark ')' :: rest) = (type, .mark ')' :: rest) := by
  have hwords : ∀ t ∈ type.takeWhile Token.isBare, t.isBare := List.all_eq_true.mp List.all_takeWhile
  have hsplit := type.takeWhile_append_dropWhile (p := Token.isBare)
  generalize type.takeWhile Token.isBare = words at *
  unfold isType at h
  generalize type.dropWhile Token.isBare = sizes at *
  subst hsplit
  unfold readType
  rw [List.append_assoc, List.takeWhile_append_of_pos hwords, List.dropWhile_append_of_pos hwords]
  split at h
  · simp [Token.isBare]
  · simp [Token.isBare]
  · simp [Token.isBare]
  · cases h

/-- A cast is read up to its type, and the type up to the closing bracket. -/
theorem parses_cast {type : List Token} (h : Parses p) (htype : isType type) : Parses (.cast p type) := by
  refine parses_of_head fun low rest _ _ => ?_
  have hoperand := h.delimited (t := .word "AS") (by decide) (type ++ .mark ')' :: rest)
  simp only [Phrase.yield, bracketed, id_eq, List.map_id, List.cons_append, List.append_assoc,
    List.nil_append]
  rw [parseHead, parseWord, show lead "CAST" = .cast by decide]
  simp [hoperand, readType_append htype]

theorem parses_extract {unit : String} (h : Parses p) (hunit : unit ≠ "") : Parses (.extract unit p) := by
  refine parses_of_head fun low rest _ _ => ?_
  have hoperand := h.delimited (t := .mark ')') (by decide) rest
  have hbehind (ts : List Token) : ts.length ≤ (Token.word unit :: .word "FROM" :: ts).length :=
    Nat.le_add_right ts.length 2
  simp only [Phrase.yield, bracketed, unitTokens, hunit, if_false, id_eq, List.map_id, List.cons_append,
    List.append_assoc, List.nil_append]
  rw [parseHead, parseWord, show lead "EXTRACT" = .extract by decide]
  simp [readUnit, hunit, within_some (hbehind _), hoperand]

/-- The branches of a CASE are read up to a token that ends them. -/
theorem parseArms_yield {arms : List (Arm Token)}
    (h : ∀ condition result, .mk condition result ∈ arms → Parses condition ∧ Parses result)
    {t : Token} (ht : t ∈ Token.delimiters) (hwhen : t ≠ .word "WHEN") (rest : List Token) :
    parseArms (yieldArms id arms ++ t :: rest) = some (arms, t :: rest) := by
  induction arms with
  | nil =>
    have hend : expect (.word "WHEN") (t :: rest) = none := expect_of_head?_ne (by simpa using hwhen)
    rw [parseArms]
    simp [yieldArms, hend]
  | cons arm arms ih =>
    cases arm with
    | mk condition result =>
      have harms := ih fun c r hmem => h c r (by simp [hmem])
      obtain ⟨hcondition, hresult⟩ := h condition result (by simp)
      -- What follows a branch is the next one, or the token that ends them.
      have hnext : ∃ s ss, yieldArms id arms ++ t :: rest = s :: ss ∧ s ∈ Token.delimiters := by
        cases arms with
        | nil => exact ⟨t, rest, rfl, ht⟩
        | cons arm arms =>
          cases arm with
          | mk c r => exact ⟨.word "WHEN", _, rfl, by decide⟩
      obtain ⟨s, ss, hss, hs⟩ := hnext
      rw [hss] at harms
      have hc := hcondition.delimited (t := .word "THEN") (by decide) (result.tokens ++ s :: ss)
      have hr := hresult.delimited hs ss
      have htokens : yieldArms id (.mk condition result :: arms) ++ t :: rest =
          .word "WHEN" :: (condition.tokens ++ .word "THEN" :: (result.tokens ++ s :: ss)) := by
        simp [yieldArms, hss]
      rw [htokens, parseArms]
      simp [hc, hr, harms]

/-- The basis of a CASE is read, and it is not taken for a branch, since no expression begins with WHEN. -/
theorem parseBasis_yield {basis : Option (Phrase Token)} (hg : ∀ p ∈ basis, p.wellGrouped)
    (h : ∀ p ∈ basis, Parses p) (rest : List Token) :
    parseBasis (yieldOption id basis ++ .word "WHEN" :: rest) = some (basis, .word "WHEN" :: rest) := by
  rw [parseBasis]
  cases basis with
  | none => simp [yieldOption]
  | some p =>
    obtain ⟨t, hhead, ht⟩ := starts_tokens (hg p rfl)
    have hother : t ≠ .word "WHEN" := by
      rintro rfl
      exact absurd ht (by decide)
    rw [Option.mem_def] at hhead
    have hread := (h p rfl).delimited (t := .word "WHEN") (by decide) rest
    simp [yieldOption, List.head?_append, hhead, hother, hread]

/-- The last part of a CASE is read behind ELSE, or passed over in front of END. -/
theorem parseBehind_else {otherwise : Option (Phrase Token)} (h : ∀ p ∈ otherwise, Parses p)
    (rest : List Token) :
    parseBehind "ELSE" 0 (yieldBehind id "ELSE" otherwise ++ .word "END" :: rest) =
      some (otherwise, .word "END" :: rest) := by
  rw [parseBehind]
  cases otherwise with
  | none =>
    have hend : expect (.word "ELSE") (.word "END" :: rest) = none := expect_of_head?_ne (by simp)
    simp [yieldBehind, hend]
  | some p =>
    have hread := (h p rfl).delimited (t := .word "END") (by decide) rest
    simp [yieldBehind, hread]

/-- A CASE is read part by part: the basis up to the first WHEN, the branches up to ELSE or END, and all of it up to
END. -/
theorem parses_case {basis otherwise : Option (Phrase Token)} {arms : List (Arm Token)}
    (hne : arms ≠ []) (hg : ∀ p ∈ basis, p.wellGrouped) (hbasis : ∀ p ∈ basis, Parses p)
    (harms : ∀ condition result, .mk condition result ∈ arms → Parses condition ∧ Parses result)
    (hotherwise : ∀ p ∈ otherwise, Parses p) : Parses (.case basis arms otherwise) := by
  refine parses_of_head fun low rest _ _ => ?_
  have helse := parseBehind_else hotherwise rest
  have hbranches : parseArms (yieldArms id arms ++
      (yieldBehind id "ELSE" otherwise ++ .word "END" :: rest)) =
        some (arms, yieldBehind id "ELSE" otherwise ++ .word "END" :: rest) := by
    cases otherwise with
    | none => exact parseArms_yield harms (by decide) (by decide) rest
    | some p => exact parseArms_yield harms (by decide) (by decide) (p.tokens ++ .word "END" :: rest)
  obtain ⟨ts, hts⟩ : ∃ ts, yieldArms id arms ++ (yieldBehind id "ELSE" otherwise ++ .word "END" :: rest) =
      .word "WHEN" :: ts := by
    match arms, hne with
    | .mk _ _ :: _, _ => exact ⟨_, rfl⟩
  simp only [Phrase.yield, id_eq, List.cons_append, List.append_assoc, List.nil_append]
  rw [parseHead, parseWord.eq_def, show lead "CASE" = .case by decide]
  dsimp only
  rw [parseCase, hts, parseBasis_yield hg hbasis, ← hts]
  simp [hbranches, hne, helse]

end Operands

/-! ### Operators -/

section Operators

variable {p left right pattern bound high : Phrase Token} {ps : List (Phrase Token)}

/-- A sign reads an operand that is at least as tight as a sign. -/
theorem parses_sign {negative : Bool} (hfloor : signLevel ≤ p.floor) (h : Parses p) :
    Parses (.sign negative p) := by
  refine parses_of_head fun low rest hlow hstops => ?_
  have hsign : signOf? (if negative then "-" else "+") = some negative := by cases negative <;> decide
  have hread : parseExpr low signLevel (p.tokens ++ rest) = some (p, rest) := by
    refine h.operand hlow hfloor hstops ?_ id ?_
    · exact Nat.min_le_right _ _
    · exact Nat.lt_of_le_of_lt (Nat.min_le_left _ _) (by decide)
  simp only [Phrase.yield, id_eq, signToken, List.cons_append]
  rw [parseHead, hsign]
  simp [hread]

/-- NOT reads an operand that is at least as tight as NOT; in a lower bound it does not stand. -/
theorem parses_not (hfloor : notLevel ≤ p.floor) (h : Parses p) : Parses (.not p) := by
  refine parses_of_head fun low rest hlow hstops => ?_
  have hread : parseExpr false notLevel (p.tokens ++ rest) = some (p, rest) := by
    refine h.operand (by simp) hfloor hstops ?_ id ?_
    · exact Nat.min_le_right _ _
    · exact Nat.lt_of_le_of_lt (Nat.min_le_left _ _) (by decide)
  have hlow' : low = false := by cases low <;> simp_all [Phrase.isLow]
  simp only [Phrase.yield, id_eq, List.cons_append]
  rw [parseHead, parseWord.eq_def, show lead "NOT" = .not by decide]
  simp [hlow', hread]

/-- **Two operands with an operator between them.** The left operand lets the operator take it, and the right one,
asked for with the next tighter level, ends where something no tighter than the operator follows. -/
theorem parses_binary {o : Operator} (hlimit : o.level ≤ left.limit) (hfloor : o.level < right.floor)
    (hleft : Parses left) (hright : Parses right) : Parses (.binary o left right) := by
  refine parses_of_link (.binary o) o.token right.tokens hleft rfl rfl ?_ ?_ hlimit ?_
  · intro h
    simp only [Phrase.isLow, Bool.and_eq_true] at h
    exact h.1.2
  · intro low hlow
    have hword : (low && o.isWord) = false := by
      cases low <;> simp_all [Phrase.isLow]
    simp [Token.link?, Operator.ofToken?_token, hword]
  · intro low rest hlow hstops
    have hread : parseExpr low (o.level + 1) (right.tokens ++ rest) = some (right, rest) := by
      refine hright.operand ?_ hfloor hstops ?_ id ?_
      · intro h
        have := hlow h
        simp only [Phrase.isLow, Bool.and_eq_true] at this
        exact this.2
      · exact Nat.min_le_right _ _
      · refine Nat.lt_of_le_of_lt (Nat.min_le_left _ _) ?_
        split <;> omega
    rw [parseLink]
    simp [hread]

/-- No phrase with LIKE, BETWEEN, IN or IS stands in a lower bound, so nothing is to be shown of it there. -/
theorem eq_false_of_not_isLow {low : Bool} (hp : p.isLow = false) (hlow : low → p.isLow) : low = false := by
  cases low <;> simp_all

/-- The ESCAPE of a LIKE is read; if it has none, none follows. -/
theorem parseBehind_escape {escape : Option (Phrase Token)} {level : Nat}
    (hfloor : ∀ e ∈ escape, likeLevel < e.floor) (h : ∀ e ∈ escape, Parses e) {rest : List Token}
    (hstops : Stops level (Phrase.optionTakesEscape escape) rest) (hlevel : level < likeLevel)
    (hlimit : ∀ e ∈ escape, level ≤ e.limit) :
    parseBehind "ESCAPE" (likeLevel + 1) (yieldBehind id "ESCAPE" escape ++ rest) =
      some (escape, rest) := by
  rw [parseBehind]
  cases escape with
  | none =>
    have hother : rest.head? ≠ some (.word "ESCAPE") := fun hhead => (hstops _ hhead).2 rfl rfl
    simp [yieldBehind, expect_of_head?_ne hother]
  | some e =>
    have hread : parseExpr false (likeLevel + 1) (e.tokens ++ rest) = some (e, rest) :=
      (h e rfl).operand (by simp) (hfloor e rfl) hstops (hlimit e rfl) id (by omega)
    simp [yieldBehind, hread]

/-- **A LIKE, with its ESCAPE or without.** With one, the word ends the pattern; without one, the pattern ends where
the whole phrase does. -/
theorem parses_like {escape : Option (Phrase Token)} (hlimit : likeLevel ≤ left.limit)
    (hfloor : likeLevel < pattern.floor)
    (hescape : ∀ e ∈ escape, ¬ pattern.takesEscape ∧ likeLevel < e.floor) (hleft : Parses left)
    (hpattern : Parses pattern) (h : ∀ e ∈ escape, Parses e) : Parses (.like left pattern escape) := by
  refine parses_of_link .like (.word "LIKE") (pattern.tokens ++ yieldBehind id "ESCAPE" escape) hleft ?_ rfl
    (by simp [Phrase.isLow]) ?_ hlimit ?_
  · simp [Phrase.yield]
  · intro low hlow
    rw [eq_false_of_not_isLow rfl hlow]
    decide
  · intro low rest hlow hstops
    have hlevel : (Phrase.like left pattern escape).limit < likeLevel :=
      Nat.lt_of_le_of_lt (Nat.min_le_left _ _) (by decide)
    have hread : parseExpr false (likeLevel + 1)
        (pattern.tokens ++ (yieldBehind id "ESCAPE" escape ++ rest)) =
          some (pattern, yieldBehind id "ESCAPE" escape ++ rest) := by
      cases escape with
      | none =>
        refine hpattern.operand (by simp) hfloor hstops ?_ (fun _ => rfl) (by omega)
        exact Nat.min_le_right _ _
      | some e =>
        -- the word ESCAPE ends the pattern, which must not be a LIKE that waits for it
        have hkeyword : Stops 0 pattern.takesEscape (yieldBehind id "ESCAPE" (some e) ++ rest) := by
          intro t ht
          cases ht
          exact ⟨⟨0, by decide, Nat.le_refl _⟩, fun htakes => absurd htakes (hescape e rfl).1⟩
        exact hpattern.operand (by simp) hfloor hkeyword (Nat.zero_le _) id (Nat.zero_lt_succ _)
    have hbehind := parseBehind_escape (fun e he => (hescape e he).2) h hstops hlevel (by
      intro e he
      cases he
      exact Nat.min_le_right _ _)
    rw [List.append_assoc, parseLink]
    simp [hread, hbehind]

/-- **A BETWEEN.** The lower bound is read by the narrower rules and ends at the AND, the upper bound ends where the
whole phrase does. -/
theorem parses_between (hlimit : likeLevel ≤ left.limit) (hbound : bound.isLow)
    (hfloor : likeLevel < high.floor) (hleft : Parses left) (hlow : Parses bound) (hhigh : Parses high) :
    Parses (.between left bound high) := by
  refine parses_of_link .between (.word "BETWEEN") (bound.tokens ++ .word "AND" :: high.tokens) hleft ?_ rfl
    (by simp [Phrase.isLow]) ?_ hlimit ?_
  · simp [Phrase.yield]
  · intro low hl
    rw [eq_false_of_not_isLow rfl hl]
    decide
  · intro low rest hl hstops
    -- Inside the lower bound AND is no operator, so it ends there.
    have hand : Token.link? true (.word "AND") = none := by decide
    have houtside : Token.link? false (.word "AND") = some (.binary .and) := by decide
    have hfirst : parseExpr true 0 (bound.tokens ++ .word "AND" :: (high.tokens ++ rest)) =
        some (bound, .word "AND" :: (high.tokens ++ rest)) := by
      rw [hlow true 0 _ (fun _ => hbound) (Nat.zero_le _)
        (stops_link houtside (Phrase.le_limit_of_isLow hbound))]
      exact parseTail_unlinked hand
    have hsecond : parseExpr false (likeLevel + 1) (high.tokens ++ rest) = some (high, rest) := by
      refine hhigh.operand (by simp) hfloor hstops ?_ id ?_
      · exact Nat.min_le_right _ _
      · exact Nat.lt_of_le_of_lt (Nat.min_le_left _ _) (by decide)
    rw [List.append_assoc, List.cons_append, parseLink]
    simp [hfirst, hsecond]

/-- IN reads its candidates between brackets. -/
theorem parses_inList (hlimit : likeLevel ≤ left.limit) (hne : ps ≠ []) (hleft : Parses left)
    (h : ∀ p ∈ ps, Parses p) : Parses (.inList left ps) := by
  refine parses_of_link .inList (.word "IN") (bracketed id (listed id (yieldAll id ps))) hleft rfl rfl
    (by simp [Phrase.isLow]) ?_ hlimit ?_
  · intro low hlow
    rw [eq_false_of_not_isLow rfl hlow]
    decide
  · intro low rest _ _
    rw [parseLink]
    simp [bracketed, parseList_listed hne h]

/-- IS reads NULL, with NOT in front or without. -/
theorem parses_isNull {negated : Bool} (hlimit : Link.isNull.level ≤ left.limit) (hleft : Parses left) :
    Parses (.isNull negated left) := by
  refine parses_of_link .isNull (.word "IS") (nullTokens negated).tail hleft ?_ rfl
    (by simp [Phrase.isLow]) ?_ hlimit ?_
  · cases negated <;> simp [Phrase.yield, nullTokens]
  · intro low hlow
    rw [eq_false_of_not_isLow rfl hlow]
    decide
  · intro low rest _ _
    rw [parseLink]
    cases negated <;> simp [nullTokens, readNull]

end Operators

/-! ## Phrases grouped by precedence -/

mutual

/-- **A phrase grouped by precedence is read from its tokens.** -/
theorem parses : ∀ p : Phrase Token, p.wellGrouped → Parses p
  | .atom _, h => parses_atom h
  | .path _ _, h => by
    simp only [Phrase.wellGrouped, Bool.and_eq_true] at h
    exact parses_path h.1 h.2
  | .typed _ _, h => by
    simp only [Phrase.wellGrouped, Bool.and_eq_true, decide_eq_true_eq] at h
    exact parses_typed h.1 h.2
  | .group inner, h => parses_group (parses inner h)
  | .row items, h => by
    simp only [Phrase.wellGrouped, Bool.and_eq_true, decide_eq_true_eq] at h
    exact parses_row h.1 fun p hp => (parses_all items h.2 p hp).2
  | .call name distinct arguments, h => by
    simp only [Phrase.wellGrouped, Bool.and_eq_true, decide_eq_true_eq] at h
    refine parses_call h.1.1 ?_ (fun p hp => (parses_all arguments h.2 p hp).1)
      fun p hp => (parses_all arguments h.2 p hp).2
    rintro rfl rfl
    cases h.1.2
  | .callStar _, h => parses_callStar (by simpa [Phrase.wellGrouped] using h)
  | .callNamed _ _ argument, h => by
    simp only [Phrase.wellGrouped, Bool.and_eq_true, decide_eq_true_eq] at h
    exact parses_callNamed h.1.1 h.1.2 (parses argument h.2)
  | .cast operand type, h => by
    simp only [Phrase.wellGrouped, Bool.and_eq_true] at h
    exact parses_cast (parses operand h.1) h.2
  | .extract unit operand, h => by
    simp only [Phrase.wellGrouped, Bool.and_eq_true, decide_eq_true_eq] at h
    exact parses_extract (parses operand h.2) h.1
  | .case basis arms otherwise, h => by
    simp only [Phrase.wellGrouped, Bool.and_eq_true] at h
    refine parses_case ?_ (fun p hp => (parses_option basis h.1.1.2 p hp).1)
      (fun p hp => (parses_option basis h.1.1.2 p hp).2) (parses_arms arms h.1.2)
      fun p hp => (parses_option otherwise h.2 p hp).2
    rintro rfl
    cases h.1.1.1
  | .sign _ operand, h => by
    simp only [Phrase.wellGrouped, Bool.and_eq_true, decide_eq_true_eq] at h
    exact parses_sign h.1 (parses operand h.2)
  | .not operand, h => by
    simp only [Phrase.wellGrouped, Bool.and_eq_true, decide_eq_true_eq] at h
    exact parses_not h.1 (parses operand h.2)
  | .binary _ left right, h => by
    simp only [Phrase.wellGrouped, Bool.and_eq_true, decide_eq_true_eq] at h
    exact parses_binary h.1.1.1 h.1.1.2 (parses left h.1.2) (parses right h.2)
  | .like value pattern escape, h => by
    simp only [Phrase.wellGrouped, Bool.and_eq_true, decide_eq_true_eq] at h
    obtain ⟨⟨⟨⟨⟨hlimit, hfloor⟩, hescape⟩, hvalue⟩, hpattern⟩, hbehind⟩ := h
    refine parses_like hlimit hfloor ?_ (parses value hvalue) (parses pattern hpattern)
      fun e he => (parses_option escape hbehind e he).2
    rintro e rfl
    simpa using hescape
  | .between value low high, h => by
    simp only [Phrase.wellGrouped, Bool.and_eq_true, decide_eq_true_eq] at h
    obtain ⟨⟨⟨⟨⟨hlimit, hbound⟩, hfloor⟩, hvalue⟩, hlow⟩, hhigh⟩ := h
    exact parses_between hlimit hbound hfloor (parses value hvalue) (parses low hlow) (parses high hhigh)
  | .inList value candidates, h => by
    simp only [Phrase.wellGrouped, Bool.and_eq_true, decide_eq_true_eq] at h
    refine parses_inList h.1.1.1 ?_ (parses value h.1.2) fun p hp => (parses_all candidates h.2 p hp).2
    rintro rfl
    cases h.1.1.2
  | .isNull _ operand, h => by
    simp only [Phrase.wellGrouped, Bool.and_eq_true, decide_eq_true_eq] at h
    exact parses_isNull h.1 (parses operand h.2)

/-- Each phrase of a list is grouped well and read from its tokens. -/
theorem parses_all : ∀ ps : List (Phrase Token), wellGroupedAll ps →
    ∀ p ∈ ps, p.wellGrouped ∧ Parses p
  | p :: ps, h, q, hq => by
    simp only [wellGroupedAll, Bool.and_eq_true] at h
    cases hq with
    | head => exact ⟨h.1, parses p h.1⟩
    | tail _ hq => exact parses_all ps h.2 q hq

theorem parses_option : ∀ p : Option (Phrase Token), wellGroupedOption p →
    ∀ q ∈ p, q.wellGrouped ∧ Parses q
  | some p, h, _, rfl => ⟨h, parses p h⟩

theorem parses_arms : ∀ arms : List (Arm Token), wellGroupedArms arms →
    ∀ condition result, .mk condition result ∈ arms → Parses condition ∧ Parses result
  | .mk c r :: arms, h, condition, result, hmem => by
    simp only [wellGroupedArms, Bool.and_eq_true] at h
    cases hmem with
    | head => exact ⟨parses c h.1.1, parses r h.1.2⟩
    | tail _ hmem => exact parses_arms arms h.2 condition result hmem

end

/-- A phrase grouped by precedence is the expression that its tokens are. -/
theorem parse_tokens {p : Phrase Token} (h : p.wellGrouped) : parse p.tokens = some p := by
  have hread := parses p h false 0 [] (by simp) (Nat.zero_le _) (by simp [Stops])
  rw [List.append_nil, parseTail] at hread
  simp [parse, hread]

/-- Two phrases grouped by precedence have different tokens. -/
theorem tokens_injective {p q : Phrase Token} (hp : p.wellGrouped) (hq : q.wellGrouped)
    (h : p.tokens = q.tokens) : p = q := by
  have hread := parse_tokens hp
  rw [h, parse_tokens hq] at hread
  exact (Option.some.inj hread).symm

end Pushdown.Sql
