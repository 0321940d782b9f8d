import Pushdown.Json.Decode

/-!
# `Proofs.Json.Reading` — readers on the text that the printer writes

A reader that works through a text is followed from one piece of the text to the next: `Reads` says what it
yields in front of a piece and where it stops. Two rules, for a value and for a sequence, carry every statement
about a larger reader; the places that faults would carry are left out of all of them.

## Contents

* `Reader.Reads` — what a reader yields, and what it leaves.
* `Reader.reads_peekToken`, `Reader.reads_word`, `Reader.reads_enclosed` — tokens, words and brackets.
* `escapeChar_cases` — the three ways to write a character in a string.
* `Reader.reads_stringBody` — a written string is read back.
-/

namespace Pushdown.Json

namespace Reader

variable {α β : Type} {r : Reader α} {f : α → Reader β} {d : Nat} {cs mid rest : List Char} {a : α} {b : β}

/-- In front of `cs`, wherever that is, and with `d` levels of nesting left, the reader yields `a` and stops in
front of `rest`. -/
def Reads (r : Reader α) (d : Nat) (cs : List Char) (a : α) (rest : List Char) : Prop :=
  ∀ p, ∃ p', r ⟨cs, p, d⟩ = (.ok a, ⟨rest, p', d⟩)

theorem reads_pure : Reads (pure a) d cs a cs := fun p => ⟨p, rfl⟩

theorem bind_of_ok {c c' : Cursor} (h : r c = (.ok a, c')) : (r >>= f) c = f a c' := by
  simp only [bind, h]

/-- A sequence reads piece after piece. -/
theorem Reads.bind (h : Reads r d cs a mid) (hf : Reads (f a) d mid b rest) : Reads (r >>= f) d cs b rest := by
  intro p
  obtain ⟨p₁, h₁⟩ := h p
  obtain ⟨p₂, h₂⟩ := hf p₁
  exact ⟨p₂, (bind_of_ok h₁).trans h₂⟩

/-- What is done to the value afterwards does not touch the text. -/
theorem Reads.map {g : α → β} (h : Reads r d cs a rest) :
    Reads (r >>= fun a => pure (g a)) d cs (g a) rest :=
  h.bind reads_pure

theorem Reads.placed (h : Reads r d cs a rest) : Reads (placed r) d cs a rest := by
  intro p
  obtain ⟨p', h'⟩ := h p
  refine ⟨p', ?_⟩
  rw [Reader.placed, h']

/-! ## Characters, tokens and words -/

theorem reads_head : Reads peek d cs cs.head? cs := fun p => ⟨p, rfl⟩

theorem reads_peek {c : Char} : Reads peek d (c :: cs) (some c) (c :: cs) := reads_head

theorem reads_eat {c : Char} : Reads eat d (c :: cs) () cs := fun p => ⟨p.advance c, rfl⟩

theorem reads_remaining : Reads remaining d cs cs.length cs := fun p => ⟨p, rfl⟩

/-- A character that is no blank is the next token. -/
theorem reads_peekToken {c : Char} (h : isJsonBlank c = false) :
    Reads peekToken d (c :: cs) (some c) (c :: cs) := by
  have hskip : Reads skipBlanks d (c :: cs) () (c :: cs) := by
    intro p
    refine ⟨p, ?_⟩
    simp [skipBlanks, dropBlanks, h]
  exact hskip.bind reads_peek

theorem reads_startValue {c : Char} (h : isJsonBlank c = false) :
    Reads startValue d (c :: cs) c (c :: cs) :=
  (reads_peekToken h).bind reads_pure

/-- The letters of a word are taken one by one. -/
theorem reads_word (ls : List Char) : Reads (word ls) d (ls ++ rest) () rest := by
  induction ls with
  | nil => exact reads_pure
  | cons l ls ih =>
    refine reads_peek.bind ?_
    dsimp only
    rw [if_pos rfl]
    exact reads_eat.bind ih

/-- A word whose first letter told it apart. -/
theorem reads_letters {c : Char} {ls : List Char} :
    Reads (do eat; word ls; pure a) d (c :: ls ++ rest) a rest :=
  reads_eat.bind (reads_word ls).map

theorem reads_colon : Reads colon d (':' :: cs) () cs := (reads_peekToken rfl).bind reads_eat

/-! ## Brackets -/

/-- Inside brackets one level of nesting is taken, and it is given back behind them. -/
theorem reads_enclosed {c : Char} {close : Reader Unit} (hd : 0 < d) (hbody : Reads r d cs a mid)
    (hclose : Reads close (d + 1) mid () rest) : Reads (enclosed r close) (d + 1) (c :: cs) a rest := by
  intro p
  obtain ⟨p₁, h₁⟩ := hbody (p.advance c)
  obtain ⟨p₂, h₂⟩ := hclose p₁
  have hdescend : descend ⟨c :: cs, p, d + 1⟩ = (.ok (), ⟨cs, p.advance c, d⟩) := by
    have hdeep : ¬ d + 1 ≤ 1 := by omega
    simp [descend, hdeep, Cursor.advance]
  have hascend : (do ascend; close : Reader Unit) ⟨mid, p₁, d⟩ = (.ok (), ⟨rest, p₂, d + 1⟩) := h₂
  refine ⟨p₂, ?_⟩
  rw [enclosed, bind_of_ok hdescend, Reader.placed, thenClose, h₁]
  dsimp only
  rw [hascend]

theorem reads_endList : Reads endList d (']' :: rest) () rest := (reads_peekToken rfl).bind reads_eat

theorem reads_endObject : Reads endObject d ('\x7d' :: rest) () rest := (reads_peekToken rfl).bind reads_eat

end Reader

/-! ## Strings -/

/-- A character is written as itself, behind a backslash with a letter of its own, or by its number. -/
theorem escapeChar_cases (c : Char) :
    (escapeChar c = [c] ∧ c ≠ '"' ∧ c ≠ '\\' ∧ ¬ c.toNat < 0x20) ∨
    (∃ e, escapeChar c = ['\\', e] ∧ e ≠ 'u' ∧ Reader.simpleEscape e = some c) ∨
    (escapeChar c = ['\\', 'u', '0', '0', Nat.digitChar (c.toNat / 16), Nat.digitChar (c.toNat % 16)] ∧
      c.toNat < 0x20) := by
  unfold escapeChar
  split
  next h => exact .inr (.inl ⟨'"', rfl, by decide, by rw [h]; rfl⟩)
  next hquote =>
  split
  next h => exact .inr (.inl ⟨'\\', rfl, by decide, by rw [h]; rfl⟩)
  next hslash =>
  split
  next h => exact .inr (.inl ⟨'b', rfl, by decide, by rw [h]; rfl⟩)
  next =>
  split
  next h => exact .inr (.inl ⟨'t', rfl, by decide, by rw [h]; rfl⟩)
  next =>
  split
  next h => exact .inr (.inl ⟨'n', rfl, by decide, by rw [h]; rfl⟩)
  next =>
  split
  next h => exact .inr (.inl ⟨'f', rfl, by decide, by rw [h]; rfl⟩)
  next =>
  split
  next h => exact .inr (.inl ⟨'r', rfl, by decide, by rw [h]; rfl⟩)
  next =>
  split
  next h => exact .inr (.inr ⟨rfl, h⟩)
  next h => exact .inl ⟨rfl, hquote, hslash, h⟩

namespace Reader

variable {d fuel : Nat} {cs rest passed : List Char}

theorem reads_simpleEscape {e c : Char} (hu : e ≠ 'u') (h : simpleEscape e = some c) :
    Reads escape d (e :: rest) c rest := by
  refine reads_peek.bind ?_
  dsimp only
  rw [if_neg hu, h]
  exact reads_eat.bind reads_pure

theorem hexValue_digitChar {n : Nat} (h : n < 16) : hexValue (Nat.digitChar n) = some n := by
  have hall : ∀ m < 16, hexValue (Nat.digitChar m) = some m := by decide
  exact hall n h

/-- The digits of a control character are read as its number. -/
theorem reads_unicodeEscape {c : Char} (h : c.toNat < 0x20) :
    Reads escape d ('u' :: '0' :: '0' :: Nat.digitChar (c.toNat / 16) :: Nat.digitChar (c.toNat % 16) :: rest) c
      rest := by
  have hquad : ∀ h₁ h₂, hexValue h₁ = some (c.toNat / 16) → hexValue h₂ = some (c.toNat % 16) →
      Reads hexQuad d ('0' :: '0' :: h₁ :: h₂ :: rest) c.toNat rest := by
    intro h₁ h₂ hhigh hlow p
    have hzero : hexValue '0' = some 0 := rfl
    have hvalue : ((0 * 16 + 0) * 16 + c.toNat / 16) * 16 + c.toNat % 16 = c.toNat := by omega
    refine ⟨(((p.advance '0').advance '0').advance h₁).advance h₂, ?_⟩
    simp only [hexQuad, hzero, hhigh, hlow, hvalue]
    rfl
  have hleading : isLeading c.toNat = false := by
    simp only [isLeading, Bool.and_eq_false_iff, decide_eq_false_iff_not]
    omega
  have htrailing : isTrailing c.toNat = false := by
    simp only [isTrailing, Bool.and_eq_false_iff, decide_eq_false_iff_not]
    omega
  refine reads_peek.bind ?_
  dsimp only
  rw [if_pos rfl]
  refine reads_eat.bind ?_
  refine (hquad _ _ (hexValue_digitChar (by omega)) (hexValue_digitChar (by omega))).bind ?_
  rw [htrailing, hleading, Char.ofNat_toNat]
  exact reads_pure

/-- One written character is one step of the loop. -/
theorem reads_stringLoop_cons {c : Char} {s : List Char}
    (h : Reads (stringLoop fuel (c :: passed)) d cs s rest) :
    Reads (stringLoop (fuel + 1) passed) d (escapeChar c ++ cs) s rest := by
  have hescaped : ∀ body, Reads escape d (body ++ cs) c cs →
      Reads (stringLoop (fuel + 1) passed) d ('\\' :: (body ++ cs)) s rest := by
    intro body hbody
    refine reads_peek.bind ?_
    dsimp only
    rw [if_neg (by decide), if_pos rfl]
    exact reads_eat.bind (hbody.bind h)
  obtain ⟨hc, hquote, hslash, hcontrol⟩ | ⟨e, hc, hu, he⟩ | ⟨hc, hcontrol⟩ := escapeChar_cases c
  · rw [hc]
    refine reads_peek.bind ?_
    dsimp only
    rw [if_neg hquote, if_neg hslash, if_neg hcontrol]
    exact reads_eat.bind h
  · rw [hc]
    exact hescaped [e] (reads_simpleEscape hu he)
  · rw [hc]
    exact hescaped _ (reads_unicodeEscape hcontrol)

/-- **A written string is read back, character by character.** Induction along the text; the fuel is spent on its
characters and not on what their escapes are written with, and `passed` holds those already read. -/
theorem reads_stringLoop (s : List Char) :
    ∀ fuel passed, s.length < fuel →
      Reads (stringLoop fuel passed) d (s.flatMap escapeChar ++ '"' :: rest) (passed.reverse ++ s) rest := by
  induction s with
  | nil =>
    intro fuel passed hfuel
    obtain ⟨fuel, rfl⟩ := Nat.exists_eq_add_one.2 hfuel
    refine reads_peek.bind ?_
    dsimp only
    rw [if_pos rfl, List.append_nil]
    exact reads_eat.bind reads_pure
  | cons c s ih =>
    intro fuel passed hfuel
    obtain ⟨fuel, rfl⟩ : ∃ n, fuel = n + 1 := Nat.exists_eq_add_one.2 (by omega)
    have hrest := ih fuel (c :: passed) (Nat.lt_of_succ_lt_succ hfuel)
    rw [List.reverse_cons, List.append_assoc] at hrest
    rw [List.flatMap_cons, List.append_assoc]
    exact reads_stringLoop_cons hrest

/-- Escaping makes no text shorter, so that the text has enough fuel for itself. -/
theorem length_le_length_flatMap_escapeChar (s : List Char) : s.length ≤ (s.flatMap escapeChar).length := by
  induction s with
  | nil => exact Nat.le_refl 0
  | cons c s ih =>
    have hpos : 1 ≤ (escapeChar c).length := by
      obtain ⟨hc, -⟩ | ⟨e, hc, -⟩ | ⟨hc, -⟩ := escapeChar_cases c <;> simp [hc]
    simp only [List.flatMap_cons, List.length_append, List.length_cons]
    omega

/-- A written string, its opening quote consumed, is read back. -/
theorem reads_stringBody (s : String) :
    Reads stringBody d (s.toList.flatMap escapeChar ++ '"' :: rest) s rest := by
  have hlength := length_le_length_flatMap_escapeChar s.toList
  refine reads_remaining.bind ((reads_stringLoop s.toList _ _ ?_).bind ?_)
  · simp only [List.length_append]
    omega
  · rw [List.reverse_nil, List.nil_append, String.ofList_toList]
    exact reads_pure

theorem stringChars_append (s : String) (rest : List Char) :
    stringChars s ++ rest = '"' :: (s.toList.flatMap escapeChar ++ '"' :: rest) := by
  simp [stringChars]

theorem reads_textAs (expected s : String) : Reads (textAs expected) d (stringChars s ++ rest) s rest := by
  rw [stringChars_append]
  refine (reads_startValue rfl).bind ?_
  rw [if_pos rfl]
  exact reads_eat.bind (reads_stringBody s)

end Reader

end Pushdown.Json
