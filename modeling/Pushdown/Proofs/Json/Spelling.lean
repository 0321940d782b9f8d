import Mathlib.Data.List.Forall2
import Pushdown.Proofs.Json.Value

/-!
# `Proofs.Json.Spelling` — readers of a shape on every text of a value

A value has many texts: blanks may stand between its tokens, and characters of its strings may be escaped. Which value
a text spells is told by the reader that takes any value. A reader of a known shape never builds that value, it works on
the text by itself. Here the two are followed side by side through one text: wherever the one reads an item or a member,
so does the other, and both stop at the same place. The loops of the shaped reader are limited by the length of the
text, so it counts too that every value takes up some of it.

## Contents

* `Reader.bind_eq_ok`, `Reader.enclosed_eq_ok_iff` — what a successful reading is made of.
* `Reader.NonGrowing` — readers that never leave more than they were given.
* `Spells`, `Items`, `Members` — what is spelled between two places of a text.
* `Follows` — a reader yields its result on every spelling of a value.
* `follows_text`, `follows_list`, `follows_record` — strings, arrays and records.
* `run_of_parse` — whole texts.
-/

namespace Pushdown.Json

namespace Reader

variable {α β : Type} {r : Reader α} {f : α → Reader β} {c c' : Cursor} {a : α} {b : β}

/-! ## Successful readings -/

theorem bind_of_error {e : Fault} (h : r c = (.error e, c')) : (r >>= f) c = (.error e, c') := by
  simp only [bind, h]

/-- A sequence that succeeds has parts that succeed. -/
theorem bind_eq_ok (h : (r >>= f) c = (.ok b, c')) : ∃ a c₁, r c = (.ok a, c₁) ∧ f a c₁ = (.ok b, c') := by
  rcases hr : r c with ⟨e | a, c₁⟩
  · rw [bind_of_error hr] at h
    cases h
  · exact ⟨a, c₁, rfl, (bind_of_ok hr).symm.trans h⟩

theorem placed_eq_ok_iff : placed r c = (.ok a, c') ↔ r c = (.ok a, c') := by
  rcases hr : r c with ⟨e | b, c₁⟩
  · rw [placed, hr]
    simp
  · rw [placed, hr]

/-- A reading with a closing part behind it succeeds exactly if both do. -/
theorem thenClose_eq_ok_iff {close : Reader Unit} :
    thenClose r close c = (.ok a, c') ↔ ∃ c₁, r c = (.ok a, c₁) ∧ close c₁ = (.ok (), c') := by
  constructor
  · intro h
    rw [thenClose] at h
    rcases hr : r c with ⟨e | b, c₁⟩
    · rw [hr] at h
      cases h
    · rw [hr] at h
      dsimp only at h
      rcases hclose : close c₁ with ⟨e | u, c₂⟩
      · rw [hclose] at h
        cases h
      · rw [hclose] at h
        cases h
        exact ⟨c₁, rfl, hclose⟩
  · rintro ⟨c₁, hr, hclose⟩
    rw [thenClose, hr]
    dsimp only
    rw [hclose]

/-- Brackets are entered, their inside is read, and they are closed. -/
theorem enclosed_eq_ok_iff {close : Reader Unit} :
    enclosed r close c = (.ok a, c') ↔ ∃ c₁ c₂, descend c = (.ok (), c₁) ∧ r c₁ = (.ok a, c₂) ∧
      (do ascend; close : Reader Unit) c₂ = (.ok (), c') := by
  constructor
  · intro h
    obtain ⟨⟨⟩, c₁, hdescend, h⟩ := bind_eq_ok h
    obtain ⟨c₂, hr, hclose⟩ := thenClose_eq_ok_iff.mp (placed_eq_ok_iff.mp h)
    exact ⟨c₁, c₂, hdescend, hr, hclose⟩
  · rintro ⟨c₁, c₂, hdescend, hr, hclose⟩
    rw [enclosed, bind_of_ok hdescend]
    exact placed_eq_ok_iff.mpr (thenClose_eq_ok_iff.mpr ⟨c₂, hr, hclose⟩)

/-! ## Readers that consume -/

/-- If the reader succeeds, it leaves no more of the text than it was given. -/
def NonGrowing (r : Reader α) : Prop := ∀ c c' a, r c = (.ok a, c') → c'.rest.length ≤ c.rest.length

namespace NonGrowing

theorem bind (hr : NonGrowing r) (hf : ∀ a, NonGrowing (f a)) : NonGrowing (r >>= f) := by
  intro c c' b h
  obtain ⟨a, c₁, h₁, h₂⟩ := bind_eq_ok h
  exact Nat.le_trans (hf a c₁ c' b h₂) (hr c c₁ a h₁)

/-- What follows depends on whether there is a next character. -/
theorem bind_head {head : Reader (Option Char)} {f : Option Char → Reader β} (hhead : NonGrowing head)
    (hnone : NonGrowing (f none)) (hsome : ∀ ch, NonGrowing (f (some ch))) : NonGrowing (head >>= f) := by
  refine hhead.bind fun next => ?_
  cases next with
  | none => exact hnone
  | some ch => exact hsome ch

theorem ite {p : Prop} [Decidable p] {r' : Reader α} (hr : NonGrowing r) (hr' : NonGrowing r') :
    NonGrowing (if p then r else r') := by
  split
  · exact hr
  · exact hr'

end NonGrowing

theorem nonGrowing_pure (a : α) : NonGrowing (pure a) := by
  intro c c' b h
  cases h
  exact Nat.le_refl _

theorem nonGrowing_fail (cause : Cause) : NonGrowing (fail cause : Reader α) := by
  intro c c' a h
  cases h

theorem nonGrowing_failPeek (cause : Cause) : NonGrowing (failPeek cause : Reader α) := by
  intro c c' a h
  cases h

theorem nonGrowing_peek : NonGrowing peek := by
  intro c c' a h
  cases h
  exact Nat.le_refl _

theorem length_advance (c : Cursor) : c.advance.rest.length = c.rest.length - 1 := by
  obtain ⟨rest, p, d⟩ := c
  cases rest with
  | nil => rfl
  | cons ch rest => rfl

theorem nonGrowing_eat : NonGrowing eat := by
  intro c c' a h
  cases h
  rw [length_advance]
  exact Nat.sub_le _ 1

theorem nonGrowing_ascend : NonGrowing ascend := by
  intro c c' a h
  cases h
  exact Nat.le_refl _

/-- Dropping blanks leaves no more than there was. -/
theorem length_dropBlanks (cs : List Char) : ∀ p, (dropBlanks cs p).1.length ≤ cs.length := by
  induction cs with
  | nil => exact fun p => Nat.le_refl 0
  | cons ch cs ih =>
    intro p
    rw [dropBlanks]
    split
    · exact Nat.le_succ_of_le (ih _)
    · exact Nat.le_refl _

theorem nonGrowing_peekToken : NonGrowing peekToken := by
  have hskip : NonGrowing skipBlanks := by
    intro c c' a h
    cases h
    exact length_dropBlanks c.rest c.position
  exact hskip.bind fun _ => nonGrowing_peek

theorem nonGrowing_hexQuad : NonGrowing hexQuad := by
  intro c c' n h
  rw [hexQuad] at h
  split at h
  · split at h
    · cases h
      simp only [length_advance]
      omega
    · cases h
  · cases h

/-- An escape is read forwards only, surrogates in pairs included. -/
theorem nonGrowing_escape : NonGrowing escape := by
  have hpart : ∀ expected, NonGrowing (escapePart expected) := fun expected =>
    nonGrowing_peek.bind_head (nonGrowing_fail _) fun _ => .ite nonGrowing_eat (nonGrowing_failPeek _)
  have hunicode : NonGrowing unicodeEscape :=
    nonGrowing_hexQuad.bind fun _ => .ite (nonGrowing_fail _) <| .ite
      ((hpart _).bind fun _ => (hpart _).bind fun _ => nonGrowing_hexQuad.bind fun _ =>
        .ite (nonGrowing_pure _) (nonGrowing_fail _))
      (nonGrowing_pure _)
  refine nonGrowing_peek.bind_head (nonGrowing_fail _) fun ch =>
    .ite (nonGrowing_eat.bind fun _ => hunicode) ?_
  split
  · exact nonGrowing_eat.bind fun _ => nonGrowing_pure _
  · exact nonGrowing_failPeek _

/-- A string is read forwards only. -/
theorem nonGrowing_stringLoop (fuel : Nat) : ∀ passed, NonGrowing (stringLoop fuel passed) := by
  induction fuel with
  | zero => exact fun _ => nonGrowing_fail _
  | succ fuel ih =>
    intro passed
    refine nonGrowing_peek.bind_head (nonGrowing_fail _) fun ch => ?_
    exact .ite (nonGrowing_eat.bind fun _ => nonGrowing_pure _) <|
      .ite (nonGrowing_eat.bind fun _ => nonGrowing_escape.bind fun _ => ih _) <|
        .ite (nonGrowing_failPeek _) (nonGrowing_eat.bind fun _ => ih _)

theorem nonGrowing_stringBody : NonGrowing stringBody := by
  have hremaining : NonGrowing remaining := by
    intro c c' n h
    cases h
    exact Nat.le_refl _
  exact hremaining.bind fun _ => (nonGrowing_stringLoop _ _).bind fun _ => nonGrowing_pure _

theorem nonGrowing_nextItem (first : Bool) : NonGrowing (nextItem first) :=
  nonGrowing_peekToken.bind_head (nonGrowing_failPeek _) fun _ =>
    .ite (nonGrowing_pure _) <| .ite (nonGrowing_pure _) <|
      .ite (nonGrowing_eat.bind fun _ => nonGrowing_peekToken.bind_head (nonGrowing_failPeek _) fun _ =>
        .ite (nonGrowing_failPeek _) (nonGrowing_pure _)) (nonGrowing_failPeek _)

theorem nonGrowing_nextKey (first : Bool) : NonGrowing (nextKey first) := by
  have hquote : NonGrowing (do eat; pure true) := nonGrowing_eat.bind fun _ => nonGrowing_pure _
  exact nonGrowing_peekToken.bind_head (nonGrowing_failPeek _) fun _ =>
    .ite (nonGrowing_pure _) <| .ite (.ite hquote (nonGrowing_failPeek _)) <|
      .ite (nonGrowing_eat.bind fun _ => nonGrowing_peekToken.bind_head (nonGrowing_failPeek _) fun _ =>
        .ite hquote <| .ite (nonGrowing_failPeek _) (nonGrowing_failPeek _)) (nonGrowing_failPeek _)

theorem nonGrowing_colon : NonGrowing colon :=
  nonGrowing_peekToken.bind_head (nonGrowing_failPeek _) fun _ => .ite nonGrowing_eat (nonGrowing_failPeek _)

theorem nonGrowing_endObject : NonGrowing endObject :=
  nonGrowing_peekToken.bind_head (nonGrowing_failPeek _) fun _ =>
    .ite nonGrowing_eat <| .ite (nonGrowing_failPeek _) (nonGrowing_failPeek _)

theorem nonGrowing_endList : NonGrowing endList := by
  refine nonGrowing_peekToken.bind_head (nonGrowing_failPeek _) fun _ =>
    .ite nonGrowing_eat <| .ite (nonGrowing_eat.bind fun _ => nonGrowing_peekToken.bind fun _ => ?_)
      (nonGrowing_failPeek _)
  split
  · exact nonGrowing_failPeek _
  · exact nonGrowing_failPeek _

/-- Behind the blanks there are none left to drop, and the position stays. -/
theorem dropBlanks_again (cs : List Char) (p : Position) :
    dropBlanks (dropBlanks cs p).1 (dropBlanks cs p).2 = dropBlanks cs p := by
  induction cs generalizing p with
  | nil => rfl
  | cons ch cs ih =>
    cases hblank : isJsonBlank ch with
    | true =>
      rw [dropBlanks, if_pos hblank]
      exact ih _
    | false =>
      have hstop : dropBlanks (ch :: cs) p = (ch :: cs, p) := by
        rw [dropBlanks, if_neg (by rw [hblank]; exact Bool.false_ne_true)]
      rw [hstop, hstop]

/-- Blanks that were passed over once are not met again. -/
theorem peekToken_again {next : Option Char} (h : peekToken c = (.ok next, c')) :
    peekToken c' = (.ok next, c') := by
  cases h
  show (Except.ok (dropBlanks _ _).1.head?, Cursor.mk (dropBlanks _ _).1 (dropBlanks _ _).2 c.depth) = _
  rw [dropBlanks_again]

end Reader

/-! ## What a text spells -/

variable {α β : Type} {r : Reader α} {c c' : Cursor} {v : Json} {a : α}

/-- Between the two places the text spells the value. -/
def Spells (c : Cursor) (v : Json) (c' : Cursor) : Prop := ∃ fuel, Reader.valueFrom fuel c = (.ok v, c')

/-- Between the two places the text spells the items of an array, from the first one or from a later one on. -/
inductive Items : Bool → Cursor → List Json → Cursor → Prop
  | done {first : Bool} {c c' : Cursor} (hnext : Reader.nextItem first c = (.ok false, c')) : Items first c [] c'
  | item {first : Bool} {c c₁ c₂ c' : Cursor} {v : Json} {vs : List Json}
      (hnext : Reader.nextItem first c = (.ok true, c₁)) (hvalue : Spells c₁ v c₂) (hrest : Items false c₂ vs c') :
      Items first c (v :: vs) c'

/-- Between the two places the text spells the members of an object, from the first one or from a later one on. -/
inductive Members : Bool → Cursor → List (String × Json) → Cursor → Prop
  | done {first : Bool} {c c' : Cursor} (hnext : Reader.nextKey first c = (.ok false, c')) : Members first c [] c'
  | member {first : Bool} {c c₁ c₂ c₃ c₄ c' : Cursor} {key : String} {v : Json} {ms : List (String × Json)}
      (hnext : Reader.nextKey first c = (.ok true, c₁)) (hkey : Reader.stringBody c₁ = (.ok key, c₂))
      (hcolon : Reader.colon c₂ = (.ok (), c₃)) (hvalue : Spells c₃ v c₄) (hrest : Members false c₄ ms c') :
      Members first c ((key, v) :: ms) c'

/-- The text has a string between the two places. -/
def Quotes (c : Cursor) (s : String) (c' : Cursor) : Prop :=
  ∃ c₁, Reader.peekToken c = (.ok (some '"'), c₁) ∧ Reader.stringBody c₁.advance = (.ok s, c')

/-- The text has brackets between the two places, and something inside of them. -/
def Encloses (opening : Char) (inside : Cursor → Cursor → Prop) (close : Reader Unit) (c c' : Cursor) : Prop :=
  ∃ c₁ c₂ c₃, Reader.peekToken c = (.ok (some opening), c₁) ∧ Reader.descend c₁ = (.ok (), c₂) ∧ inside c₂ c₃ ∧
    (do Reader.ascend; close : Reader Unit) c₃ = (.ok (), c')

/-- How a string or anything in brackets stands between the two places. -/
def Outline (c c' : Cursor) : Json → Prop
  | .string s => Quotes c s c'
  | .array vs => Encloses '[' (Items true · vs ·) Reader.endList c c'
  | .object ms => Encloses '\x7b' (Members true · ms ·) Reader.endObject c c'
  | .null | .bool _ | .int _ | .float _ => True

/-- **What the loop over items has read is a run of items.** Induction on the fuel: each turn puts one item in front
of those that the rest of the loop reads, and `passed` holds the earlier ones in reverse. -/
theorem items_of_itemsFrom (fuel : Nat) : ∀ {first passed c c' out},
    Reader.itemsFrom fuel first passed c = (.ok out, c') → ∃ vs, out = passed.reverse ++ vs ∧ Items first c vs c' := by
  induction fuel with
  | zero =>
    intro first passed c c' out h
    rw [Reader.itemsFrom] at h
    cases h
  | succ fuel ih =>
    intro first passed c c' out h
    rw [Reader.itemsFrom] at h
    obtain ⟨more, c₁, hnext, h⟩ := Reader.bind_eq_ok h
    cases more with
    | false =>
      cases h
      exact ⟨[], (List.append_nil _).symm, .done hnext⟩
    | true =>
      obtain ⟨v, c₂, hv, h⟩ := Reader.bind_eq_ok h
      obtain ⟨vs, rfl, hvs⟩ := ih h
      exact ⟨v :: vs, by simp, .item hnext ⟨fuel, hv⟩ hvs⟩

/-- **What the loop over members has read is a run of members**, each a key, a colon and a value. -/
theorem members_of_membersFrom (fuel : Nat) : ∀ {first passed c c' out},
    Reader.membersFrom fuel first passed c = (.ok out, c') →
      ∃ ms, out = passed.reverse ++ ms ∧ Members first c ms c' := by
  induction fuel with
  | zero =>
    intro first passed c c' out h
    rw [Reader.membersFrom] at h
    cases h
  | succ fuel ih =>
    intro first passed c c' out h
    rw [Reader.membersFrom] at h
    obtain ⟨more, c₁, hnext, h⟩ := Reader.bind_eq_ok h
    cases more with
    | false =>
      cases h
      exact ⟨[], (List.append_nil _).symm, .done hnext⟩
    | true =>
      obtain ⟨key, c₂, hkey, h⟩ := Reader.bind_eq_ok h
      obtain ⟨⟨⟩, c₃, hcolon, h⟩ := Reader.bind_eq_ok h
      obtain ⟨v, c₄, hv, h⟩ := Reader.bind_eq_ok h
      obtain ⟨ms, rfl, hms⟩ := ih h
      exact ⟨(key, v) :: ms, by simp, .member hnext hkey hcolon ⟨fuel, hv⟩ hms⟩

/-- What stands between two places is told by its first character. -/
theorem Spells.outline (h : Spells c v c') : Outline c c' v := by
  have hword : ∀ {ls w c₁}, (do Reader.eat; Reader.word ls; pure w : Reader Json) c₁ = (.ok v, c') → v = w := by
    intro ls w c₁ h
    obtain ⟨-, c₂, -, h⟩ := Reader.bind_eq_ok h
    obtain ⟨-, c₃, -, h⟩ := Reader.bind_eq_ok h
    cases h
    rfl
  have hnumber : ∀ n : Numeral, Outline c c' n.toJson := by
    intro n
    cases n <;> trivial
  obtain ⟨fuel, h⟩ := h
  cases fuel with
  | zero =>
    rw [Reader.valueFrom] at h
    cases h
  | succ fuel =>
    rw [Reader.valueFrom] at h
    obtain ⟨next, c₁, hpeek, h⟩ := Reader.bind_eq_ok h
    cases next with
    | none => cases h
    | some ch =>
      -- the characters in the order in which they are asked for: words, numbers, a quote, brackets
      dsimp only at h
      split at h
      next =>
        cases hword h
        trivial
      next =>
      split at h
      next =>
        cases hword h
        trivial
      next =>
      split at h
      next =>
        cases hword h
        trivial
      next =>
      split at h
      -- a minus, and the digits behind it
      next =>
        obtain ⟨-, c₂, -, h⟩ := Reader.bind_eq_ok h
        obtain ⟨n, c₃, -, h⟩ := Reader.bind_eq_ok h
        cases h
        exact hnumber n
      next =>
      split at h
      next =>
        obtain ⟨n, c₂, -, h⟩ := Reader.bind_eq_ok h
        cases h
        exact hnumber n
      next =>
      split at h
      next hquote =>
        obtain ⟨⟨⟩, c₂, heat, h⟩ := Reader.bind_eq_ok h
        obtain ⟨s, c₃, hbody, h⟩ := Reader.bind_eq_ok h
        cases h
        cases heat
        exact ⟨c₁, hquote ▸ hpeek, hbody⟩
      next =>
      split at h
      next hopen =>
        obtain ⟨vs, c₂, hinside, h⟩ := Reader.bind_eq_ok h
        cases h
        obtain ⟨c₃, c₄, hdescend, hitems, hclose⟩ := Reader.enclosed_eq_ok_iff.mp hinside
        obtain ⟨vs, rfl, hvs⟩ := items_of_itemsFrom fuel hitems
        exact ⟨c₁, c₃, c₄, hopen ▸ hpeek, hdescend, hvs, hclose⟩
      next =>
      split at h
      next hopen =>
        obtain ⟨ms, c₂, hinside, h⟩ := Reader.bind_eq_ok h
        cases h
        obtain ⟨c₃, c₄, hdescend, hmembers, hclose⟩ := Reader.enclosed_eq_ok_iff.mp hinside
        obtain ⟨ms, rfl, hms⟩ := members_of_membersFrom fuel hmembers
        exact ⟨c₁, c₃, c₄, hopen ▸ hpeek, hdescend, hms, hclose⟩
      next => cases h

/-! ## Readers of a shape -/

/-- Wherever the text spells `v`, the reader yields `a`, stops where the value ends and has consumed something. -/
def Follows (r : Reader α) (v : Json) (a : α) : Prop :=
  ∀ c c', Spells c v c' → r c = (.ok a, c') ∧ c'.rest.length < c.rest.length

/-- What is done to the value afterwards does not touch the text. -/
theorem Follows.map {g : α → β} (h : Follows r v a) : Follows (r >>= fun a => pure (g a)) v (g a) := by
  intro c c' hv
  obtain ⟨hr, hless⟩ := h c c' hv
  exact ⟨Reader.bind_of_ok hr, hless⟩

namespace Reader

/-- Consuming a token that is there makes the text shorter. -/
theorem length_advance_lt {ch : Char} {c₁ : Cursor} (h : peekToken c = (.ok (some ch), c₁)) :
    c₁.advance.rest.length < c.rest.length := by
  have hpos : 0 < c₁.rest.length := by
    have hhead : c₁.rest.head? = some ch := by
      obtain ⟨-, c₂, -, h⟩ := bind_eq_ok h
      obtain ⟨hhead, rfl⟩ := Prod.mk.inj h
      exact Except.ok.inj hhead
    rw [List.length_pos_iff]
    intro hnil
    rw [hnil] at hhead
    cases hhead
  have hle := nonGrowing_peekToken c c₁ _ h
  rw [length_advance]
  omega

theorem length_of_descend (h : descend c = (.ok (), c')) : c'.rest.length = c.rest.length - 1 := by
  rw [descend] at h
  split at h
  · cases h
  · cases h
    exact length_advance c

theorem startValue_of_peekToken {ch : Char} {c₁ : Cursor} (h : peekToken c = (.ok (some ch), c₁)) :
    startValue c = (.ok ch, c₁) := bind_of_ok h

end Reader

theorem Quotes.length_lt {s : String} (h : Quotes c s c') : c'.rest.length < c.rest.length := by
  obtain ⟨c₁, hpeek, hbody⟩ := h
  exact Nat.lt_of_le_of_lt (Reader.nonGrowing_stringBody _ _ _ hbody) (Reader.length_advance_lt hpeek)

/-- A reader of names meets the quote, looks at it again, and looks up what stands behind it. -/
theorem follows_variant {known : List (String × α)} {s : String} (h : known.lookup s = some a) :
    Follows (Reader.variant known) (.string s) a := by
  intro c c' hv
  have hquotes : Quotes c s c' := hv.outline
  refine ⟨?_, hquotes.length_lt⟩
  obtain ⟨c₁, hpeek, hbody⟩ := hquotes
  have htext : Reader.textAs "variant identifier" c₁ = (.ok s, c') := by
    rw [Reader.textAs, Reader.bind_of_ok (Reader.startValue_of_peekToken (Reader.peekToken_again hpeek)), if_pos rfl]
    exact hbody
  rw [Reader.variant, Reader.bind_of_ok hpeek]
  refine Reader.placed_eq_ok_iff.mpr ?_
  rw [Reader.bind_of_ok htext, Reader.lookupVariant, h]
  rfl

/-- Brackets are longer than their inside. -/
theorem Encloses.length_lt {opening : Char} {inside : Cursor → Cursor → Prop} {close : Reader Unit}
    (h : Encloses opening inside close c c') (hinside : ∀ {c c'}, inside c c' → c'.rest.length ≤ c.rest.length)
    (hclose : Reader.NonGrowing close) : c'.rest.length < c.rest.length := by
  obtain ⟨c₁, c₂, c₃, hpeek, hdescend, hbody, hend⟩ := h
  have hopen := Reader.length_advance_lt hpeek
  have hle := hinside hbody
  have hback := (Reader.nonGrowing_ascend.bind fun _ => hclose) _ _ _ hend
  rw [Reader.length_of_descend hdescend, ← Reader.length_advance] at hle
  omega

/-- One item is one step of either loop. -/
theorem Items.follow {vs : List Json} {first : Bool} (h : Items first c vs c') :
    ∀ {xs : List α}, List.Forall₂ (Follows r) vs xs → c'.rest.length ≤ c.rest.length ∧
      ∀ fuel passed, c.rest.length < fuel →
        Reader.listFrom r fuel first passed c = (.ok (passed.reverse ++ xs), c') := by
  -- along the items: each takes up some of the text, so the fuel of a loop that has more of it than the text lasts
  induction h with
  | done hnext =>
    rintro xs ⟨⟩
    refine ⟨Reader.nonGrowing_nextItem _ _ _ _ hnext, fun fuel passed hfuel => ?_⟩
    obtain ⟨fuel, rfl⟩ := Nat.exists_eq_add_one.2 (Nat.zero_lt_of_lt hfuel)
    rw [Reader.listFrom, Reader.bind_of_ok hnext, List.append_nil]
    rfl
  | item hnext hvalue hrest ih =>
    rintro xs (_ | ⟨hfollows, hvs⟩)
    obtain ⟨hread, hless⟩ := hfollows _ _ hvalue
    obtain ⟨hle, hmore⟩ := ih hvs
    have hcomma := Reader.nonGrowing_nextItem _ _ _ _ hnext
    refine ⟨by omega, fun fuel passed hfuel => ?_⟩
    obtain ⟨fuel, rfl⟩ := Nat.exists_eq_add_one.2 (Nat.zero_lt_of_lt hfuel)
    rw [Reader.listFrom, Reader.bind_of_ok hnext, if_pos rfl, Reader.bind_of_ok hread, hmore _ _ (by omega),
      List.reverse_cons, List.append_assoc]
    rfl

/-- An array is followed if each of its items is. -/
theorem follows_list {vs : List Json} {xs : List α} (h : List.Forall₂ (Follows r) vs xs) :
    Follows (Reader.list r) (.array vs) xs := by
  intro c c' hv
  have hbrackets : Encloses '[' (Items true · vs ·) Reader.endList c c' := hv.outline
  refine ⟨?_, hbrackets.length_lt (fun hitems => (hitems.follow h).1) Reader.nonGrowing_endList⟩
  obtain ⟨c₁, c₂, c₃, hpeek, hdescend, hitems, hclose⟩ := hbrackets
  rw [Reader.list, Reader.bind_of_ok (Reader.startValue_of_peekToken hpeek), if_pos rfl]
  refine Reader.enclosed_eq_ok_iff.mpr ⟨c₂, c₃, hdescend, (hitems.follow h).2 _ [] ?_, hclose⟩
  -- the fuel is more than the length of the text in front of the bracket
  have hless := Reader.length_of_descend hdescend
  omega

/-- One member is one step of the loop, and it stores its field. -/
theorem Members.follow {fields : List (Field α)} {ms : List (String × Json)} {first : Bool}
    (h : Members first c ms c') : ∀ {seen seen' : List String} {a b : α}, Stores Follows fields ms seen a seen' b →
      c'.rest.length ≤ c.rest.length ∧ ∀ fuel, c.rest.length < fuel →
        Reader.objectFields fields fuel first seen a c = (.ok (seen', b), c') := by
  induction h with
  | done hnext =>
    rintro seen seen' a b ⟨⟩
    refine ⟨Reader.nonGrowing_nextKey _ _ _ _ hnext, fun fuel hfuel => ?_⟩
    obtain ⟨fuel, rfl⟩ := Nat.exists_eq_add_one.2 (Nat.zero_lt_of_lt hfuel)
    rw [Reader.objectFields, Reader.bind_of_ok hnext]
    rfl
  | member hnext hkey hcolon hvalue hrest ih =>
    rintro seen seen' a b (_ | ⟨hfield, hnew, hstore, hstores⟩)
    obtain ⟨hread, hless⟩ := hstore _ _ hvalue
    obtain ⟨hle, hmore⟩ := ih hstores
    have hstart := Reader.nonGrowing_nextKey _ _ _ _ hnext
    have hbody := Reader.nonGrowing_stringBody _ _ _ hkey
    have hmid := Reader.nonGrowing_colon _ _ _ hcolon
    refine ⟨by omega, fun fuel hfuel => ?_⟩
    obtain ⟨fuel, rfl⟩ := Nat.exists_eq_add_one.2 (Nat.zero_lt_of_lt hfuel)
    rw [Reader.objectFields, Reader.bind_of_ok hnext, if_pos rfl, Reader.bind_of_ok hkey, hfield]
    dsimp only
    rw [if_neg (by rw [hnew]; exact Bool.false_ne_true), Reader.bind_of_ok hcolon, Reader.bind_of_ok hread,
      hmore _ (by omega)]

/-- An object is followed as the record that its members lead to, if no field is missing then. -/
theorem follows_record {name : String} {fields : List (Field α)} {ms : List (String × Json)} {seen : List String}
    {init : α} (h : Stores Follows fields ms [] init seen a) (hmissing : Reader.firstMissing fields seen = none) :
    Follows (Reader.record name fields init) (.object ms) a := by
  intro c c' hv
  have hbrackets : Encloses '\x7b' (Members true · ms ·) Reader.endObject c c' := hv.outline
  refine ⟨?_, hbrackets.length_lt (fun hmembers => (hmembers.follow h).1) Reader.nonGrowing_endObject⟩
  obtain ⟨c₁, c₂, c₃, hpeek, hdescend, hmembers, hclose⟩ := hbrackets
  rw [Reader.record, Reader.bind_of_ok (Reader.startValue_of_peekToken hpeek), if_neg (by decide), if_pos rfl]
  refine Reader.enclosed_eq_ok_iff.mpr ⟨c₂, c₃, hdescend, ?_, hclose⟩
  rw [Reader.bind_of_ok ((hmembers.follow h).2 _ ?_)]
  · dsimp only
    rw [hmissing]
    rfl
  · have hless := Reader.length_of_descend hdescend
    omega

/-! ## Whole texts -/

/-- A whole text is read exactly if the reader succeeds from its start and nothing but blanks is left. -/
theorem Reader.run_eq_ok_iff {s : String} :
    r.run s = .ok a ↔ ∃ c₁ c₂, r (Cursor.start s) = (.ok a, c₁) ∧ peekToken c₁ = (.ok none, c₂) := by
  constructor
  · intro h
    obtain ⟨a', c₁, hr, hend⟩ := bind_eq_ok (Prod.ext h rfl)
    obtain ⟨next, c₂, hpeek, hend⟩ := bind_eq_ok hend
    cases next with
    | none =>
      cases hend
      exact ⟨c₁, _, hr, hpeek⟩
    | some ch => cases hend
  · rintro ⟨c₁, c₂, hr, hpeek⟩
    rw [run, bind_of_ok hr, bind_of_ok hpeek]
    rfl

/-- A text that spells a value is read as what the reader yields on it. -/
theorem run_of_parse {s : String} (hparse : parse s = .ok v) (h : Follows r v a) : r.run s = .ok a := by
  obtain ⟨c₁, c₂, hvalue, hpeek⟩ := Reader.run_eq_ok_iff.mp hparse
  obtain ⟨n, c₃, hremaining, hvalue⟩ := Reader.bind_eq_ok hvalue
  cases hremaining
  exact Reader.run_eq_ok_iff.mpr ⟨c₁, c₂, (h _ _ ⟨_, hvalue⟩).1, hpeek⟩

end Pushdown.Json
