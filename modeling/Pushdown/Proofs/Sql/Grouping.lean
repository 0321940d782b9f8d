import Pushdown.Proofs.Sql.Unambiguous

/-!
# `Proofs.Sql.Grouping` — what the reader makes of tokens is grouped by precedence

`Proofs.Sql.Unambiguous` follows a phrase through the reader. Here the reader is followed through any tokens: whatever
it accepts, it has taken every token once, and every operand stands where precedence puts it. The two together say
exactly which phrases are read from their tokens, so a phrase that is not grouped by precedence is read as another
phrase or not at all.

Between two steps the reader holds an operand, and what comes next may still take it. The invariant of that state
(`Held`) speaks of the next token: if the last operator of the operand lets it pass, so do those inside.

## Contents

* `Held`, `Done` — an operand that the reader holds, and one that it gives back.
* `held_closed`, `Done.sign`, `Done.binary` and so on — one lemma for each form of phrase.
* `parseExpr_sound` — the reader, function by function.
* `parse_eq_some_iff` — the phrases that are read from given tokens.
-/

namespace Pushdown.Sql

/-! ## Taking tokens -/

/-- A token that was expected and found stood in front. -/
theorem eq_cons_of_expect {t : Token} {ts rest : List Token} {hlt : rest.length < ts.length}
    (h : expect t ts = some ⟨rest, hlt⟩) : ts = t :: rest := by
  cases ts with
  | nil => cases h
  | cons s behind =>
    rw [expect] at h
    split at h
    next hs =>
      cases h
      rw [hs]
    · cases h

theorem head?_ne_of_expect {t : Token} {ts : List Token} (h : expect t ts = none) : ts.head? ≠ some t := by
  intro hhead
  cases ts with
  | nil => cases hhead
  | cons s rest =>
    cases hhead
    rw [expect_self] at h
    cases h

theorem eq_some_of_within {α : Type} {ts rest : List Token} {part : Option (α × List Token)} {a : α}
    {hle : rest.length ≤ ts.length} (h : within ts part = some (a, ⟨rest, hle⟩)) :
    part = some (a, rest) := by
  obtain ⟨⟨b, behind⟩, hpart, hrest⟩ := Option.bind_eq_some_iff.mp h
  dsimp only at hrest
  split at hrest
  · cases hrest
    exact hpart
  · cases hrest

/-- Only the two signs are read as signs, each as the token that its phrase yields. -/
theorem eq_token_of_signOf? {text : String} {negative : Bool} (h : signOf? text = some negative) :
    Token.operator text = signToken negative := by
  unfold signOf? at h
  split at h
  next hminus =>
    cases h
    rw [hminus]
    rfl
  · split at h
    next hplus =>
      cases h
      rw [hplus]
      rfl
    · cases h

/-- The token that a link begins with. -/
def Link.token : Link → Token
  | .binary o => o.token
  | .like => .word "LIKE"
  | .between => .word "BETWEEN"
  | .inList => .word "IN"
  | .isNull => .word "IS"

theorem Link.level_lt (link : Link) : link.level < signLevel := by
  cases link with
  | binary o => cases o <;> decide
  | _ => decide

/-- A link is known by its token, and in a lower bound it is an operator that is no word. -/
theorem eq_token_of_link? {low : Bool} {t : Token} {link : Link} (h : t.link? low = some link) :
    t = link.token ∧ (low → ∃ o, link = .binary o ∧ o.isWord = false) := by
  unfold Token.link? at h
  split at h
  next o ho =>
    have htoken : o.token = t := by simpa using List.find?_some ho
    cases hword : low && o.isWord with
    | true => simp [hword] at h
    | false =>
      simp only [hword, Bool.false_eq_true, if_false, Option.some.injEq] at h
      subst h
      refine ⟨htoken.symm, fun hlow => ⟨o, rfl, ?_⟩⟩
      simpa [hlow] using hword
  · cases low with
    | true => simp at h
    | false =>
      simp only [Bool.false_eq_true, if_false] at h
      refine ⟨?_, by simp⟩
      repeat' split at h
      all_goals cases h
      all_goals assumption

/-- Words that take an operand are unknown to a lower bound. -/
theorem eq_false_of_link? {low : Bool} {link : Link} (h : link.token.link? low = some link)
    (hword : ∀ o, link ≠ .binary o) : low = false := by
  rw [← Bool.not_eq_true]
  intro hlow
  obtain ⟨o, ho, -⟩ := (eq_token_of_link? h).2 hlow
  exact hword o ho

/-! ## Operands in the hands of the reader -/

/-- The reader holds the phrase, and the tokens are still to be read. -/
structure Held (low : Bool) (least : Nat) (p : Phrase Token) (rest : List Token) : Prop where
  grouped : p.wellGrouped
  isLow : low → p.isLow
  floor : least ≤ p.floor
  /-- What the outermost operator leaves to the next token, the operators inside leave to it too. -/
  next : ∀ t ∈ rest.head?, ∀ link ∈ t.link? low, link.level ≤ p.ceiling ∨ link.level < p.floor →
    link.level ≤ p.limit
  escape : p.takesEscape → rest.head? ≠ some (.word "ESCAPE")

/-- The reader gives the phrase back: what comes next is looser than all that it was asked for. -/
structure Done (low : Bool) (least : Nat) (p : Phrase Token) (rest : List Token) : Prop
    extends Held low least p rest where
  looser : ∀ t ∈ rest.head?, ∀ link ∈ t.link? low, link.level < least

section Forms

variable {low : Bool} {least : Nat} {p left right pattern bound high : Phrase Token}
  {ps : List (Phrase Token)} {rest : List Token}

theorem Held.mono {fewer : Nat} (h : Held low least p rest) (hle : fewer ≤ least) : Held low fewer p rest :=
  { h with floor := Nat.le_trans hle h.floor }

/-- The next token takes the phrase as a whole, if it takes it at all. -/
theorem Done.le_limit (h : Done low least p rest) {t : Token} (ht : t ∈ rest.head?) {link : Link}
    (hlink : link ∈ t.link? low) : link.level ≤ p.limit :=
  h.next t ht link hlink (.inr (Nat.lt_of_lt_of_le (h.looser t ht link hlink) h.floor))

/-- A phrase with no open end may be followed by anything. -/
theorem held_closed (hgrouped : p.wellGrouped) (hfloor : p.floor = signLevel) (hlimit : p.limit = signLevel)
    (hlow : p.isLow) (hescape : p.takesEscape = false) : Held low signLevel p rest where
  grouped := hgrouped
  isLow := fun _ => hlow
  floor := Nat.le_of_eq hfloor.symm
  next := by
    intro t _ link _ _
    rw [hlimit]
    exact Nat.le_of_lt link.level_lt
  escape := by
    intro htakes
    rw [hescape] at htakes
    cases htakes

theorem held_atom {t : Token} (h : t.isValue) : Held low signLevel (.atom t) rest :=
  held_closed h rfl rfl rfl rfl

theorem held_bracket (hne : ps ≠ []) (h : wellGroupedAll ps) : Held low signLevel (bracket ps) rest := by
  match ps, hne with
  | [q], _ =>
    have hq : q.wellGrouped := by simpa [wellGroupedAll] using h
    exact held_closed hq rfl rfl rfl rfl
  | _ :: _ :: _, _ => exact held_closed (by simpa [bracket, Phrase.wellGrouped] using h) rfl rfl rfl rfl

/-- A sign takes the operand that the reader gives back to it: nothing behind it binds as tightly as a sign. -/
theorem Done.sign {negative : Bool} (h : Done low signLevel p rest) :
    Held low signLevel (.sign negative p) rest where
  grouped := by simp [Phrase.wellGrouped, h.floor, h.grouped]
  isLow := h.isLow
  floor := Nat.le_refl _
  next := by
    intro t ht link hlink _
    exact Nat.le_min.mpr ⟨Nat.le_sub_one_of_lt link.level_lt, h.le_limit ht hlink⟩
  escape := h.escape

/-- NOT takes all that is tighter than itself, so that what comes next is looser than NOT. -/
theorem Done.not (h : Done false notLevel p rest) : Held false signLevel (.not p) rest where
  grouped := by simp [Phrase.wellGrouped, h.floor, h.grouped]
  isLow := by simp
  floor := Nat.le_refl _
  next := by
    intro t ht link hlink _
    exact Nat.le_min.mpr ⟨Nat.le_sub_one_of_lt (h.looser t ht link hlink), h.le_limit ht hlink⟩
  escape := h.escape

/-- An operand that something of the level takes. -/
structure Taken (low : Bool) (level : Nat) (left : Phrase Token) : Prop where
  grouped : left.wellGrouped
  isLow : low → left.isLow
  limit : level ≤ left.limit

/-- An operator between operands. To the left it takes what lets it, to the right all that is tighter than itself, so
that the next token is no tighter than the operator. -/
theorem Done.binary {o : Operator} (hleft : Taken low o.level left) (hword : low → o.isWord = false)
    (h : Done low (o.level + 1) right rest) :
    Held low (min o.level left.floor) (.binary o left right) rest where
  grouped := by simp [Phrase.wellGrouped, hleft.limit, hleft.grouped, Nat.lt_of_succ_le h.floor, h.grouped]
  isLow := by
    intro hlow
    simp [Phrase.isLow, hword hlow, hleft.isLow hlow, h.isLow hlow]
  floor := Nat.le_refl _
  next := by
    intro t ht link hlink hopen
    refine Nat.le_min.mpr ⟨?_, h.le_limit ht hlink⟩
    have hlevel : link.level ≤ o.level := Nat.le_of_lt_succ (h.looser t ht link hlink)
    -- A comparison lets pass what is looser than itself, any other operator also what is like it.
    cases hchains : o.chains with
    | true => simpa using hlevel
    | false =>
      have hfloor : (Phrase.binary o left right).floor ≤ o.level := Nat.min_le_left _ _
      have hceiling : (Phrase.binary o left right).ceiling = o.level - 1 := by simp [Phrase.ceiling, hchains]
      simp only [Bool.false_eq_true, if_false]
      omega
  escape := h.escape

/-- A list of candidates closes the phrase on its right: only the left end stays open. -/
theorem Taken.inList (hleft : Taken false likeLevel left) (hne : ps ≠ []) (h : wellGroupedAll ps) :
    Held false (min likeLevel left.floor) (.inList left ps) rest where
  grouped := by simp [Phrase.wellGrouped, hleft.limit, hleft.grouped, hne, h]
  isLow := by simp
  floor := Nat.le_refl _
  next := fun _ _ link _ _ => Nat.le_of_lt link.level_lt
  escape := by simp [Phrase.takesEscape]

theorem Taken.isNull {negated : Bool} (hleft : Taken false Link.isNull.level left) :
    Held false (min Link.isNull.level left.floor) (.isNull negated left) rest where
  grouped := by simp [Phrase.wellGrouped, hleft.limit, hleft.grouped]
  isLow := by simp
  floor := Nat.le_refl _
  next := fun _ _ link _ _ => Nat.le_of_lt link.level_lt
  escape := by simp [Phrase.takesEscape]

/-- What is looser than the operands of a LIKE and passes its end, or its beginning, is looser than the LIKE. -/
theorem le_of_like_open {p : Phrase Token} {link : Link} (hceiling : p.ceiling = likeLevel - 1)
    (hfloor : p.floor ≤ likeLevel) (h : link.level ≤ p.ceiling ∨ link.level < p.floor) :
    link.level ≤ likeLevel - 1 := by
  simp only [likeLevel] at *
  omega

/-- A LIKE without an ESCAPE would take one, so that none may follow. -/
theorem Done.like (hleft : Taken false likeLevel left) (h : Done false (likeLevel + 1) pattern rest)
    (hrest : rest.head? ≠ some (.word "ESCAPE")) :
    Held false (min likeLevel left.floor) (.like left pattern none) rest where
  grouped := by
    simp [Phrase.wellGrouped, wellGroupedOption, hleft.limit, hleft.grouped, Nat.lt_of_succ_le h.floor,
      h.grouped]
  isLow := by simp
  floor := Nat.le_refl _
  next := by
    intro t ht link hlink hopen
    exact Nat.le_min.mpr ⟨le_of_like_open rfl (Nat.min_le_left _ _) hopen, h.le_limit ht hlink⟩
  escape := fun _ => hrest

/-- A LIKE with its ESCAPE. The pattern was given back in front of the word, so that no LIKE inside it takes the
escape. -/
theorem Done.like_escape {e : Phrase Token} {behind : List Token} (hleft : Taken false likeLevel left)
    (hpattern : Done false (likeLevel + 1) pattern (.word "ESCAPE" :: behind))
    (h : Done false (likeLevel + 1) e rest) :
    Held false (min likeLevel left.floor) (.like left pattern (some e)) rest where
  grouped := by
    have htakes : pattern.takesEscape = false := by
      rw [← Bool.not_eq_true]
      exact fun htakes => hpattern.escape htakes rfl
    simp [Phrase.wellGrouped, wellGroupedOption, hleft.limit, hleft.grouped, htakes,
      Nat.lt_of_succ_le hpattern.floor, hpattern.grouped, Nat.lt_of_succ_le h.floor, h.grouped]
  isLow := by simp
  floor := Nat.le_refl _
  next := by
    intro t ht link hlink hopen
    exact Nat.le_min.mpr ⟨le_of_like_open rfl (Nat.min_le_left _ _) hopen, h.le_limit ht hlink⟩
  escape := h.escape

/-- A BETWEEN. Its lower bound was read by the narrower rules, with an AND behind it; its upper bound ends the
phrase. -/
theorem Done.between {behind : List Token} (hleft : Taken false likeLevel left) (hbound : Done true 0 bound behind)
    (h : Done false (likeLevel + 1) high rest) :
    Held false (min likeLevel left.floor) (.between left bound high) rest where
  grouped := by
    simp [Phrase.wellGrouped, hleft.limit, hleft.grouped, hbound.isLow rfl, hbound.grouped,
      Nat.lt_of_succ_le h.floor, h.grouped]
  isLow := by simp
  floor := Nat.le_refl _
  next := by
    intro t ht link hlink hopen
    exact Nat.le_min.mpr ⟨le_of_like_open rfl (Nat.min_le_left _ _) hopen, h.le_limit ht hlink⟩
  escape := h.escape

end Forms

/-! ## Parts without expressions inside -/

/-- A name is read with the name behind a dot, if there is one. -/
theorem readName_sound {low : Bool} {text : String} {ts rest : List Token} {p : Phrase Token}
    (h : readName text ts = (p, rest)) : .name text :: ts = p.tokens ++ rest ∧ Held low signLevel p rest := by
  unfold readName at h
  split at h
  · cases h
    exact ⟨rfl, held_closed rfl rfl rfl rfl rfl⟩
  · cases h
    exact ⟨rfl, held_atom rfl⟩

/-- The unit of an EXTRACT is a word that is not empty, and FROM stands behind it. -/
theorem readUnit_sound {ts rest : List Token} {unit : String} (h : readUnit ts = some (unit, rest)) :
    ts = unitTokens unit ++ .word "FROM" :: rest ∧ unit ≠ "" := by
  unfold readUnit at h
  split at h
  · split at h
    · cases h
    next hunit =>
      cases h
      simp [unitTokens, hunit]
  · cases h

/-- A parameter is named by a word that is no reserved one, with an arrow behind it. -/
theorem readParameter_sound {ts rest : List Token} {parameter : String}
    (h : readParameter ts = some (parameter, rest)) :
    ts = .word parameter :: .operator "=>" :: rest ∧ lead parameter = .plain := by
  unfold readParameter at h
  split at h
  · split at h
    next hplain =>
      cases h
      exact ⟨rfl, hplain⟩
    · cases h
  · cases h

theorem readNull_sound {ts rest : List Token} {negated : Bool} (h : readNull ts = some (negated, rest)) :
    .word "IS" :: ts = nullTokens negated ++ rest := by
  unfold readNull at h
  split at h
  · cases h
    rfl
  · cases h
    rfl
  · cases h

/-- What is read as a type is one, and nothing is lost. -/
theorem readType_sound (ts : List Token) :
    ts = (readType ts).1 ++ (readType ts).2 ∧ isType (readType ts).1 := by
  have hsplit := ts.takeWhile_append_dropWhile (p := Token.isBare)
  have hwords : ∀ t ∈ ts.takeWhile Token.isBare, t.isBare := List.all_eq_true.mp List.all_takeWhile
  -- Words at the front of a type are dropped, and what is left of it is compared with the three forms.
  have htype (sizes : List Token) (h : isType sizes) : isType (ts.takeWhile Token.isBare ++ sizes) := by
    unfold isType at h ⊢
    rwa [List.dropWhile_append_of_pos hwords]
  unfold readType
  generalize ts.takeWhile Token.isBare = words at *
  generalize ts.dropWhile Token.isBare = sizes at *
  subst hsplit
  dsimp only
  split
  next p rest => exact ⟨by simp, htype _ rfl⟩
  next p s rest => exact ⟨by simp, htype _ rfl⟩
  · exact ⟨rfl, by simpa using htype [] rfl⟩

theorem tokens_bracket {ps : List (Phrase Token)} (hne : ps ≠ []) :
    (bracket ps).tokens = bracketed id (listed id (yieldAll id ps)) := by
  match ps, hne with
  | [_], _ => simp [bracket, Phrase.yield, yieldAll]
  | _ :: _ :: _, _ => rfl

/-- The words that lead to something are written in capitals. -/
theorem eq_of_lead_eq {text : String} {l : Lead} (h : lead text = l) (word : String) (hword : (word, l) ∈
    [("NOT", Lead.not), ("CASE", .case), ("CAST", .cast), ("EXTRACT", .extract)]) : text = word := by
  unfold lead at h
  simp only [List.mem_cons, Prod.mk.injEq, List.not_mem_nil, or_false] at hword
  rcases hword with ⟨rfl, rfl⟩ | ⟨rfl, rfl⟩ | ⟨rfl, rfl⟩ | ⟨rfl, rfl⟩
  all_goals
    repeat' split at h
    all_goals first | assumption | cases h

/-! ## The reader, function by function -/

mutual

/-- **What is read as an expression is grouped by precedence.** -/
theorem parseExpr_sound {low : Bool} {least : Nat} {ts rest : List Token} {p : Phrase Token}
    (hleast : least ≤ signLevel) (h : parseExpr low least ts = some (p, rest)) :
    ts = p.tokens ++ rest ∧ Done low least p rest := by
  rw [parseExpr] at h
  obtain ⟨⟨head, behind, hle⟩, hhead, htail⟩ := Option.bind_eq_some_iff.mp h
  obtain ⟨htokens, hheld⟩ := parseHead_sound (eq_some_of_within hhead)
  obtain ⟨hrest, hdone⟩ := parseTail_sound (hheld.mono hleast) htail
  exact ⟨htokens.trans hrest, hdone⟩
termination_by 5 * ts.length + 1
decreasing_by all_goals omega

/-- **The beginning of an expression.** The first token decides: a value is held as it is, a sign takes an operand, a
bracket a list. The cases are those of the reader; a word is left to `parseWord_sound`. -/
theorem parseHead_sound {low : Bool} {rest : List Token} {p : Phrase Token} : ∀ {ts : List Token},
    parseHead low ts = some (p, rest) → ts = p.tokens ++ rest ∧ Held low signLevel p rest
  | [], h => by
    rw [parseHead] at h
    cases h
  | .number text :: ts, h => by
    rw [parseHead] at h
    cases h
    exact ⟨rfl, held_atom rfl⟩
  | .string text :: ts, h => by
    rw [parseHead] at h
    cases h
    exact ⟨rfl, held_atom rfl⟩
  | .name text :: ts, h => by
    rw [parseHead] at h
    exact readName_sound (Option.some.inj h)
  | .operator text :: ts, h => by
    rw [parseHead] at h
    split at h
    next negative hsign =>
      obtain ⟨⟨operand, behind⟩, hoperand, hresult⟩ := Option.bind_eq_some_iff.mp h
      cases hresult
      obtain ⟨htokens, hdone⟩ := parseExpr_sound (Nat.le_refl _) hoperand
      rw [eq_token_of_signOf? hsign, htokens]
      exact ⟨rfl, hdone.sign⟩
    · cases h
  | .mark c :: ts, h => by
    rw [parseHead] at h
    split at h
    next hc =>
      obtain ⟨⟨ps, behind⟩, hlist, h⟩ := Option.bind_eq_some_iff.mp h
      obtain ⟨⟨after, hlt⟩, hclose, hresult⟩ := Option.bind_eq_some_iff.mp h
      cases hresult
      obtain ⟨htokens, hne, hgrouped⟩ := parseList_sound hlist
      refine ⟨?_, held_bracket hne hgrouped⟩
      rw [hc, htokens, eq_cons_of_expect hclose, tokens_bracket hne]
      simp [bracketed]
    · cases h
  | .word text :: ts, h => by
    rw [parseHead] at h
    exact parseWord_sound h
  | .comment :: ts, h => by
    rw [parseHead] at h
    cases h
termination_by ts => 5 * ts.length
decreasing_by all_goals simp only [List.length_cons]; omega

/-- **An expression that begins with a word.** What the word leads to decides: NOT takes an operand of its own level,
CASE, CAST and EXTRACT read up to the bracket or word that closes them, and any other word that is not reserved is a
value, a type in front of a string, or the name of a call. -/
theorem parseWord_sound {low : Bool} {text : String} {ts rest : List Token} {p : Phrase Token}
    (h : parseWord low text ts = some (p, rest)) :
    .word text :: ts = p.tokens ++ rest ∧ Held low signLevel p rest := by
  rw [parseWord.eq_def] at h
  split at h
  next hlead =>
    -- NOT, which a lower bound does not know
    split at h
    · cases h
    next hlow =>
      obtain ⟨⟨operand, behind⟩, hoperand, hresult⟩ := Option.bind_eq_some_iff.mp h
      cases hresult
      obtain ⟨htokens, hdone⟩ := parseExpr_sound (by decide) hoperand
      rw [Bool.not_eq_true] at hlow
      rw [hlow, eq_of_lead_eq hlead "NOT" (by decide), htokens]
      exact ⟨rfl, hdone.not⟩
  next hlead =>
    rw [eq_of_lead_eq hlead "CASE" (by decide)]
    exact parseCase_sound h
  next hlead =>
    -- CAST: the operand reaches up to AS, the type up to the closing parenthesis
    obtain ⟨⟨opened, hopened⟩, hopen, h⟩ := Option.bind_eq_some_iff.mp h
    obtain ⟨⟨operand, behind⟩, hoperand, h⟩ := Option.bind_eq_some_iff.mp h
    obtain ⟨⟨typed, htyped⟩, has, h⟩ := Option.bind_eq_some_iff.mp h
    obtain ⟨htokens, hdone⟩ := parseExpr_sound (Nat.zero_le _) hoperand
    obtain ⟨htype, hisType⟩ := readType_sound typed
    dsimp only at h
    split at h
    next type after hread =>
      cases h
      rw [hread] at htype hisType
      refine ⟨?_, held_closed (by simp [Phrase.wellGrouped, hdone.grouped, hisType]) rfl rfl rfl rfl⟩
      rw [eq_of_lead_eq hlead "CAST" (by decide), eq_cons_of_expect hopen, htokens, eq_cons_of_expect has, htype]
      simp [Phrase.yield, bracketed]
    · cases h
  next hlead =>
    -- EXTRACT: unit and FROM are read together
    obtain ⟨⟨opened, hopened⟩, hopen, h⟩ := Option.bind_eq_some_iff.mp h
    obtain ⟨⟨unit, from_, hfrom⟩, hunit, h⟩ := Option.bind_eq_some_iff.mp h
    obtain ⟨⟨operand, behind⟩, hoperand, h⟩ := Option.bind_eq_some_iff.mp h
    obtain ⟨⟨after, hlt⟩, hclose, hresult⟩ := Option.bind_eq_some_iff.mp h
    cases hresult
    obtain ⟨htokens, hdone⟩ := parseExpr_sound (Nat.zero_le _) hoperand
    obtain ⟨hunitTokens, hne⟩ := readUnit_sound (eq_some_of_within hunit)
    refine ⟨?_, held_closed (by simp [Phrase.wellGrouped, hdone.grouped, hne]) rfl rfl rfl rfl⟩
    rw [eq_of_lead_eq hlead "EXTRACT" (by decide), eq_cons_of_expect hopen, hunitTokens, htokens, eq_cons_of_expect hclose]
    simp [Phrase.yield, bracketed]
  next hlead => cases h
  next hlead =>
    have hvalue : (Token.word text).isValue := by simp [Token.isValue, hlead]
    -- The tokens keep their name, so that the call behind them is seen to be shorter.
    generalize hts : ts = us at h
    split at h
    next c behind =>
      split at h
      next hc =>
        have hlength : ts.length = behind.length + 1 := by rw [hts, List.length_cons]
        rw [hc]
        exact parseCall_sound hlead h
      · cases h
        exact ⟨rfl, held_atom hvalue⟩
    next s behind =>
      cases h
      exact ⟨rfl, held_closed (by simp [Phrase.wellGrouped, hlead, Token.isString]) rfl rfl rfl rfl⟩
    · cases h
      exact ⟨rfl, held_atom hvalue⟩
termination_by 5 * ts.length + 4
decreasing_by all_goals omega

/-- **A call, behind its opening bracket.** The arguments are `*`, nothing, a named parameter, or a list, with
DISTINCT in front or not. Whichever it is, the closing bracket leaves no end open. -/
theorem parseCall_sound {low : Bool} {name : String} {ts rest : List Token} {p : Phrase Token}
    (hname : lead name = .plain) (h : parseCall name ts = some (p, rest)) :
    .word name :: .mark '(' :: ts = p.tokens ++ rest ∧ Held low signLevel p rest := by
  -- the first token decides: no arguments, a star, DISTINCT, an argument by name, and all other arguments
  rw [parseCall] at h
  split at h
  next hhead =>
    cases h
    obtain ⟨behind, rfl⟩ := List.head?_eq_some_iff.mp hhead
    exact ⟨by simp [Phrase.yield, bracketed, yieldAll],
      held_closed (by simp [Phrase.wellGrouped, hname, wellGroupedAll]) rfl rfl rfl rfl⟩
  split at h
  next hhead =>
    obtain ⟨⟨after, hlt⟩, hclose, hresult⟩ := Option.bind_eq_some_iff.mp h
    cases hresult
    obtain ⟨behind, rfl⟩ := List.head?_eq_some_iff.mp hhead
    have hbehind : behind = .mark ')' :: rest := eq_cons_of_expect hclose
    exact ⟨by simp [Phrase.yield, bracketed, hbehind],
      held_closed (by simp [Phrase.wellGrouped, hname]) rfl rfl rfl rfl⟩
  split at h
  next hhead =>
    obtain ⟨⟨ps, behind⟩, hlist, h⟩ := Option.bind_eq_some_iff.mp h
    obtain ⟨⟨after, hlt⟩, hclose, hresult⟩ := Option.bind_eq_some_iff.mp h
    cases hresult
    obtain ⟨htokens, hne, hgrouped⟩ := parseList_sound hlist
    -- `ts` itself stays, since the measure of the induction speaks of it
    have hts : ts = .word "DISTINCT" :: ts.tail := by
      obtain ⟨tail, rfl⟩ := List.head?_eq_some_iff.mp hhead
      rfl
    refine ⟨?_, held_closed (by simp [Phrase.wellGrouped, hname, hne, hgrouped]) rfl rfl rfl rfl⟩
    rw [hts, htokens, eq_cons_of_expect hclose]
    simp [Phrase.yield, bracketed]
  split at h
  next parameter behind hle hparameter =>
    obtain ⟨⟨argument, behind'⟩, hargument, h⟩ := Option.bind_eq_some_iff.mp h
    obtain ⟨⟨after, hlt⟩, hclose, hresult⟩ := Option.bind_eq_some_iff.mp h
    cases hresult
    obtain ⟨htokens, hdone⟩ := parseExpr_sound (Nat.zero_le _) hargument
    obtain ⟨hts, hplain⟩ := readParameter_sound (eq_some_of_within hparameter)
    refine ⟨?_, held_closed (by simp [Phrase.wellGrouped, hname, hplain, hdone.grouped]) rfl rfl rfl rfl⟩
    rw [hts, htokens, eq_cons_of_expect hclose]
    simp [Phrase.yield, bracketed]
  · obtain ⟨⟨ps, behind⟩, hlist, h⟩ := Option.bind_eq_some_iff.mp h
    obtain ⟨⟨after, hlt⟩, hclose, hresult⟩ := Option.bind_eq_some_iff.mp h
    cases hresult
    obtain ⟨htokens, hne, hgrouped⟩ := parseList_sound hlist
    refine ⟨?_, held_closed (by simp [Phrase.wellGrouped, hname, hgrouped]) rfl rfl rfl rfl⟩
    rw [htokens, eq_cons_of_expect hclose]
    simp [Phrase.yield, bracketed]
termination_by 5 * ts.length + 3
decreasing_by all_goals (try simp only [List.length_tail]); omega

/-- A CASE is closed by its END, whatever stands in its parts. -/
theorem parseCase_sound {low : Bool} {ts rest : List Token} {p : Phrase Token}
    (h : parseCase ts = some (p, rest)) :
    .word "CASE" :: ts = p.tokens ++ rest ∧ Held low signLevel p rest := by
  rw [parseCase] at h
  obtain ⟨⟨basis, branches, hbranches⟩, hbasis, h⟩ := Option.bind_eq_some_iff.mp h
  obtain ⟨⟨arms, behind, hbehind⟩, harms, h⟩ := Option.bind_eq_some_iff.mp h
  dsimp only at h
  split at h
  · cases h
  next hne =>
    obtain ⟨⟨otherwise, ended⟩, helse, h⟩ := Option.bind_eq_some_iff.mp h
    obtain ⟨⟨after, hlt⟩, hend, hresult⟩ := Option.bind_eq_some_iff.mp h
    cases hresult
    obtain ⟨htokens, hgroupedBasis⟩ := parseBasis_sound (eq_some_of_within hbasis)
    obtain ⟨harmTokens, hgroupedArms⟩ := parseArms_sound (eq_some_of_within harms)
    obtain ⟨helseTokens, hdone, -⟩ := parseBehind_sound (Nat.zero_le _) helse
    have hgroupedElse : wellGroupedOption otherwise := by
      cases otherwise with
      | none => rfl
      | some e => exact (hdone e rfl).grouped
    refine ⟨?_, held_closed (by simp [Phrase.wellGrouped, hne, hgroupedBasis, hgroupedArms, hgroupedElse])
      rfl rfl rfl rfl⟩
    have hended : ended = .word "END" :: after := eq_cons_of_expect hend
    rw [htokens, harmTokens, helseTokens]
    simp [Phrase.yield, hended]
termination_by 5 * ts.length + 3
decreasing_by all_goals omega

/-- The basis of a CASE is absent if the first branch follows at once. -/
theorem parseBasis_sound {ts rest : List Token} {basis : Option (Phrase Token)}
    (h : parseBasis ts = some (basis, rest)) :
    ts = yieldOption id basis ++ rest ∧ wellGroupedOption basis := by
  rw [parseBasis] at h
  split at h
  · cases h
    exact ⟨rfl, rfl⟩
  · obtain ⟨⟨p, behind⟩, hp, hresult⟩ := Option.bind_eq_some_iff.mp h
    cases hresult
    obtain ⟨htokens, hdone⟩ := parseExpr_sound (Nat.zero_le _) hp
    exact ⟨htokens, hdone.grouped⟩
termination_by 5 * ts.length + 2
decreasing_by all_goals omega

/-- A part behind a keyword. If it is absent, the keyword is not what comes next. -/
theorem parseBehind_sound {keyword : String} {least : Nat} {ts rest : List Token}
    {part : Option (Phrase Token)} (hleast : least ≤ signLevel)
    (h : parseBehind keyword least ts = some (part, rest)) :
    ts = yieldBehind id keyword part ++ rest ∧ (∀ p ∈ part, Done false least p rest) ∧
      (part = none → rest.head? ≠ some (.word keyword)) := by
  rw [parseBehind] at h
  split at h
  next behind hlt hkeyword =>
    obtain ⟨⟨p, after⟩, hp, hresult⟩ := Option.bind_eq_some_iff.mp h
    cases hresult
    obtain ⟨htokens, hdone⟩ := parseExpr_sound hleast hp
    refine ⟨?_, ?_, by simp⟩
    · rw [eq_cons_of_expect hkeyword, htokens]
      rfl
    · rintro q ⟨⟩
      exact hdone
  next hkeyword =>
    cases h
    exact ⟨rfl, by simp, fun _ => head?_ne_of_expect hkeyword⟩
termination_by 5 * ts.length + 2
decreasing_by all_goals omega

/-- The branches of a CASE are read one by one, up to the first token that is no WHEN. -/
theorem parseArms_sound {ts rest : List Token} {arms : List (Arm Token)}
    (h : parseArms ts = some (arms, rest)) :
    ts = yieldArms id arms ++ rest ∧ wellGroupedArms arms := by
  rw [parseArms] at h
  split at h
  next behind hlt hwhen =>
    obtain ⟨⟨condition, behind', hbehind⟩, hcondition, h⟩ := Option.bind_eq_some_iff.mp h
    obtain ⟨⟨then_, hthen⟩, hkeyword, h⟩ := Option.bind_eq_some_iff.mp h
    obtain ⟨⟨result, more, hmore⟩, hresult, h⟩ := Option.bind_eq_some_iff.mp h
    obtain ⟨⟨others, after⟩, hothers, h⟩ := Option.bind_eq_some_iff.mp h
    cases h
    obtain ⟨htokens, hdone⟩ := parseExpr_sound (Nat.zero_le _) (eq_some_of_within hcondition)
    obtain ⟨hresultTokens, hresultDone⟩ := parseExpr_sound (Nat.zero_le _) (eq_some_of_within hresult)
    obtain ⟨hrest, hgrouped⟩ := parseArms_sound hothers
    refine ⟨?_, by simp [wellGroupedArms, hdone.grouped, hresultDone.grouped, hgrouped]⟩
    rw [eq_cons_of_expect hwhen, htokens, eq_cons_of_expect hkeyword, hresultTokens, hrest]
    simp [yieldArms]
  · cases h
    exact ⟨rfl, rfl⟩
termination_by 5 * ts.length + 2
decreasing_by all_goals omega

/-- The items of a list are read one by one as long as commas follow; there is at least one. -/
theorem parseList_sound {ts rest : List Token} {ps : List (Phrase Token)}
    (h : parseList ts = some (ps, rest)) :
    ts = listed id (yieldAll id ps) ++ rest ∧ ps ≠ [] ∧ wellGroupedAll ps := by
  rw [parseList] at h
  obtain ⟨⟨p, behind, hbehind⟩, hp, h⟩ := Option.bind_eq_some_iff.mp h
  obtain ⟨htokens, hdone⟩ := parseExpr_sound (Nat.zero_le _) (eq_some_of_within hp)
  dsimp only at h
  split at h
  next more hlt hcomma =>
    obtain ⟨⟨qs, after⟩, hqs, hresult⟩ := Option.bind_eq_some_iff.mp h
    cases hresult
    obtain ⟨hrest, hne, hgrouped⟩ := parseList_sound hqs
    obtain ⟨q, qs, rfl⟩ := List.exists_cons_of_ne_nil hne
    refine ⟨?_, by simp, by rw [wellGroupedAll, hdone.grouped, hgrouped]; rfl⟩
    rw [htokens, eq_cons_of_expect hcomma, hrest]
    simp [yieldAll]
  · cases h
    exact ⟨by simpa [yieldAll] using htokens, by simp, by simpa [wellGroupedAll] using hdone.grouped⟩
termination_by 5 * ts.length + 2
decreasing_by all_goals omega

/-- **The loop over the operators behind an operand.** The invariant is `Held`: the phrase in hand yields the tokens
read so far and may be taken by the next operator. It ends as `Done`, with a token in front that is looser than all
that was asked for. -/
theorem parseTail_sound {low : Bool} {least : Nat} {left p : Phrase Token} {rest : List Token} :
    ∀ {ts : List Token}, Held low least left ts → parseTail low least left ts = some (p, rest) →
      left.tokens ++ ts = p.tokens ++ rest ∧ Done low least p rest
  | [], hleft, h => by
    rw [parseTail] at h
    cases h
    exact ⟨rfl, { hleft with looser := by simp }⟩
  | t :: ts, hleft, h => by
    rw [parseTail] at h
    split at h
    next hnone =>
      -- nothing takes the operand
      cases h
      refine ⟨rfl, { hleft with looser := ?_ }⟩
      rintro s ⟨⟩ link hlink
      rw [hnone] at hlink
      cases hlink
    next link hlink =>
      split at h
      next hlooser =>
        -- what would take it is too loose
        cases h
        refine ⟨rfl, { hleft with looser := ?_ }⟩
        rintro s ⟨⟩ other hother
        rw [hlink] at hother
        cases hother
        exact hlooser
      next htight =>
        split at h
        · cases h
        next hceiling =>
          -- it is taken: by `Held.next` as a whole, and the result is held in its place
          obtain ⟨⟨q, behind, hle⟩, hq, h⟩ := Option.bind_eq_some_iff.mp h
          obtain ⟨htoken, -⟩ := eq_token_of_link? hlink
          have htaken : Taken low link.level left :=
            ⟨hleft.grouped, hleft.isLow, hleft.next t rfl link hlink (.inl (Nat.not_lt.mp hceiling))⟩
          rw [htoken] at hlink ⊢
          obtain ⟨htokens, hheld⟩ := parseLink_sound hlink htaken (eq_some_of_within hq)
          have hleast : least ≤ min link.level left.floor := Nat.le_min.mpr ⟨Nat.not_lt.mp htight, hleft.floor⟩
          obtain ⟨hrest, hdone⟩ := parseTail_sound (hheld.mono hleast) h
          exact ⟨htokens.trans hrest, hdone⟩
termination_by ts => 5 * ts.length
decreasing_by all_goals simp only [List.length_cons]; omega

/-- **One turn of the loop.** The operator takes the phrase in hand as its left operand and reads the rest of its own.
One case for each operator; each ends in the lemma above that says how the new phrase is held. -/
theorem parseLink_sound {low : Bool} {left p : Phrase Token} {link : Link} {ts rest : List Token}
    (hlink : link.token.link? low = some link) (hleft : Taken low link.level left)
    (h : parseLink low left link ts = some (p, rest)) :
    left.tokens ++ link.token :: ts = p.tokens ++ rest ∧ Held low (min link.level left.floor) p rest := by
  cases link with
  | binary o =>
    rw [parseLink] at h
    obtain ⟨⟨right, behind⟩, hright, hresult⟩ := Option.bind_eq_some_iff.mp h
    cases hresult
    obtain ⟨htokens, hdone⟩ := parseExpr_sound (Link.binary o).level_lt hright
    refine ⟨?_, hdone.binary hleft ?_⟩
    · rw [htokens]
      simp [Phrase.yield, Link.token]
    · intro hlow
      obtain ⟨o', ho, hisWord⟩ := (eq_token_of_link? hlink).2 hlow
      cases ho
      exact hisWord
  | like =>
    obtain rfl := eq_false_of_link? hlink (by simp)
    rw [parseLink] at h
    obtain ⟨⟨pattern, behind, hbehind⟩, hpattern, h⟩ := Option.bind_eq_some_iff.mp h
    obtain ⟨⟨escape, after⟩, hescape, hresult⟩ := Option.bind_eq_some_iff.mp h
    cases hresult
    obtain ⟨htokens, hdone⟩ := parseExpr_sound (by decide) (eq_some_of_within hpattern)
    obtain ⟨hescapeTokens, hescapeDone, hnone⟩ := parseBehind_sound (by decide) hescape
    constructor
    · rw [htokens, hescapeTokens]
      simp [Phrase.yield, Link.token]
    · cases escape with
      | none =>
        -- an ESCAPE that comes next would have been taken
        have hbehind : behind = rest := hescapeTokens
        rw [hbehind] at hdone
        exact hdone.like hleft (hnone rfl)
      | some e =>
        rw [hescapeTokens] at hdone
        exact hdone.like_escape hleft (hescapeDone e rfl)
  | between =>
    obtain rfl := eq_false_of_link? hlink (by simp)
    rw [parseLink] at h
    obtain ⟨⟨bound, behind, hbehind⟩, hbound, h⟩ := Option.bind_eq_some_iff.mp h
    obtain ⟨⟨second, hsecond⟩, hand, h⟩ := Option.bind_eq_some_iff.mp h
    obtain ⟨⟨high, after⟩, hhigh, hresult⟩ := Option.bind_eq_some_iff.mp h
    cases hresult
    obtain ⟨htokens, hdone⟩ := parseExpr_sound (Nat.zero_le _) (eq_some_of_within hbound)
    obtain ⟨hhighTokens, hhighDone⟩ := parseExpr_sound (by decide) hhigh
    refine ⟨?_, hdone.between hleft hhighDone⟩
    rw [htokens, eq_cons_of_expect hand, hhighTokens]
    simp [Phrase.yield, Link.token]
  | inList =>
    obtain rfl := eq_false_of_link? hlink (by simp)
    rw [parseLink] at h
    obtain ⟨⟨opened, hopened⟩, hopen, h⟩ := Option.bind_eq_some_iff.mp h
    obtain ⟨⟨ps, behind⟩, hlist, h⟩ := Option.bind_eq_some_iff.mp h
    obtain ⟨⟨after, hlt⟩, hclose, hresult⟩ := Option.bind_eq_some_iff.mp h
    cases hresult
    obtain ⟨htokens, hne, hgrouped⟩ := parseList_sound hlist
    refine ⟨?_, hleft.inList hne hgrouped⟩
    rw [eq_cons_of_expect hopen, htokens, eq_cons_of_expect hclose]
    simp [Phrase.yield, Link.token, bracketed]
  | isNull =>
    obtain rfl := eq_false_of_link? hlink (by simp)
    rw [parseLink] at h
    obtain ⟨⟨negated, behind⟩, hnull, hresult⟩ := Option.bind_eq_some_iff.mp h
    cases hresult
    refine ⟨?_, hleft.isNull⟩
    rw [show Link.isNull.token :: ts = nullTokens negated ++ rest from readNull_sound hnull]
    simp [Phrase.yield]
termination_by 5 * ts.length + 3
decreasing_by all_goals omega

end

/-! ## Phrases that are read from given tokens -/

/-- **Reading gives exactly the phrases that are grouped by precedence.** -/
theorem parse_eq_some_iff {ts : List Token} {p : Phrase Token} :
    parse ts = some p ↔ p.wellGrouped ∧ p.tokens = ts := by
  constructor
  · intro h
    unfold parse at h
    split at h
    next q hread =>
      cases h
      obtain ⟨htokens, hdone⟩ := parseExpr_sound (Nat.zero_le _) hread
      exact ⟨hdone.grouped, by simpa using htokens.symm⟩
    · cases h
  · rintro ⟨hgrouped, rfl⟩
    exact parse_tokens hgrouped

/-- A phrase is what its tokens are read as if and only if it is grouped by precedence. -/
theorem parse_tokens_iff (p : Phrase Token) : parse p.tokens = some p ↔ p.wellGrouped := by
  simp [parse_eq_some_iff]

end Pushdown.Sql
