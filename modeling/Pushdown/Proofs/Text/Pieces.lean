import Mathlib.Data.List.DropRight
import Mathlib.Data.List.TakeWhile
import Pushdown.Text.Ascii
import Pushdown.Text.Blank

/-!
# `Proofs.Text.Pieces` — the pieces of a text, and their normal form

A text is split at a separator, and blanks and case are then taken out of the way. Each of the three steps is described
by what its result is like, and not by how it is found: the pieces are the one way to write the text as pieces without
separators, and a trimmed text is one without blanks at its ends.

## Contents

* `Pieces`, `split_eq_iff` — the pieces of a text.
* `split_append` — the pieces of a text with a separator inside.
* `Trimmed`, `trim_eq_self_iff` — texts without blanks at their ends.
* `toUpper_cases`, `trimmed_asciiUpper` — the upper case of ASCII letters touches neither separators nor blanks.
-/

namespace Pushdown.Text

/-! ## Pieces -/

/-- The text is made of these pieces, with a separator between any two of them and none inside. -/
structure Pieces (sep : Char) (s : String) (pieces : List String) : Prop where
  some_piece : pieces ≠ []
  separate : ∀ piece ∈ pieces, sep ∉ piece.toList
  joined : (String.singleton sep).intercalate pieces = s

section Splitting

variable {sep : Char}

theorem splitChars_cons_self (cs : List Char) : splitChars sep (sep :: cs) = [] :: splitChars sep cs := by
  rw [splitChars, if_pos rfl]

/-- A character that does not separate belongs to the first piece of what follows. -/
theorem splitChars_cons_of_ne {c : Char} (hc : c ≠ sep) (cs : List Char) :
    ∃ piece pieces, splitChars sep cs = piece :: pieces ∧ splitChars sep (c :: cs) = (c :: piece) :: pieces := by
  obtain ⟨piece, pieces, hcs⟩ := List.exists_cons_of_ne_nil (splitChars_ne_nil sep cs)
  refine ⟨piece, pieces, hcs, ?_⟩
  rw [splitChars, if_neg hc, hcs]

/-- A separator ends the pieces in front of it, and those behind it begin anew. -/
theorem splitChars_append (a b : List Char) :
    splitChars sep (a ++ sep :: b) = splitChars sep a ++ splitChars sep b := by
  induction a with
  | nil => exact splitChars_cons_self b
  | cons c a ih =>
    by_cases hc : c = sep
    · subst hc
      rw [List.cons_append, splitChars_cons_self, ih, splitChars_cons_self]
      rfl
    · obtain ⟨piece, pieces, ha, hca⟩ := splitChars_cons_of_ne hc a
      obtain ⟨piece', pieces', hab, hcab⟩ := splitChars_cons_of_ne hc (a ++ sep :: b)
      rw [ih, ha, List.cons_append, List.cons.injEq] at hab
      rw [List.cons_append, hcab, hca, ← hab.1, ← hab.2]
      rfl

theorem splitChars_of_not_mem {cs : List Char} (h : sep ∉ cs) : splitChars sep cs = [cs] := by
  induction cs with
  | nil => rfl
  | cons c cs ih =>
    rw [List.mem_cons, not_or] at h
    rw [splitChars, if_neg (Ne.symm h.1), ih h.2]

/-- Pieces without the separator come back from the text that joins them. -/
theorem splitChars_intercalate {pieces : List (List Char)} (hne : pieces ≠ []) (h : ∀ p ∈ pieces, sep ∉ p) :
    splitChars sep ([sep].intercalate pieces) = pieces := by
  induction pieces with
  | nil => exact absurd rfl hne
  | cons piece rest ih =>
    rw [List.forall_mem_cons] at h
    cases rest with
    | nil =>
      rw [List.intercalate_singleton]
      exact splitChars_of_not_mem h.1
    | cons next rest =>
      rw [List.intercalate_cons_cons, List.append_assoc, List.singleton_append, splitChars_append,
        splitChars_of_not_mem h.1, ih (List.cons_ne_nil _ _) h.2]
      rfl

/-- Nothing is lost, and no separator is left inside. -/
theorem splitChars_joined (sep : Char) (cs : List Char) :
    [sep].intercalate (splitChars sep cs) = cs ∧ ∀ p ∈ splitChars sep cs, sep ∉ p := by
  induction cs with
  | nil => exact ⟨rfl, by simp [splitChars]⟩
  | cons c cs ih =>
    by_cases hc : c = sep
    · subst hc
      rw [splitChars_cons_self, List.forall_mem_cons]
      obtain ⟨piece, pieces, hcs⟩ := List.exists_cons_of_ne_nil (splitChars_ne_nil c cs)
      refine ⟨?_, List.not_mem_nil, ih.2⟩
      rw [hcs, List.intercalate_cons_cons, ← hcs, ih.1]
      rfl
    · obtain ⟨piece, pieces, hcs, hccs⟩ := splitChars_cons_of_ne hc cs
      rw [hcs, List.forall_mem_cons] at ih
      rw [hccs, List.forall_mem_cons]
      refine ⟨?_, ?_, ih.2.2⟩
      · rw [← ih.1]
        cases pieces with
        | nil => rw [List.intercalate_singleton, List.intercalate_singleton]
        | cons next rest =>
          rw [List.intercalate_cons_cons, List.intercalate_cons_cons]
          rfl
      · rw [List.mem_cons, not_or]
        exact ⟨Ne.symm hc, ih.2.1⟩

/-- **Splitting finds the pieces of a text**, and there is only one list of them. -/
theorem split_eq_iff {s : String} {pieces : List String} : split sep s = pieces ↔ Pieces sep s pieces := by
  constructor
  · rintro rfl
    obtain ⟨hjoined, hseparate⟩ := splitChars_joined sep s.toList
    refine ⟨by simp [split, splitChars_ne_nil], ?_, ?_⟩
    · intro piece hpiece
      obtain ⟨p, hp, rfl⟩ := List.mem_map.mp hpiece
      rw [String.toList_ofList]
      exact hseparate p hp
    · rw [← String.toList_inj, String.toList_intercalate, split, List.map_map, String.toList_singleton]
      have hid : String.toList ∘ String.ofList = id := funext fun _ => String.toList_ofList
      rw [hid, List.map_id, hjoined]
  · rintro ⟨hne, hseparate, rfl⟩
    rw [split, String.toList_intercalate, String.toList_singleton, splitChars_intercalate, List.map_map]
    · have hid : String.ofList ∘ String.toList = id := funext fun _ => String.ofList_toList
      rw [hid, List.map_id]
    · simpa using hne
    · intro p hp
      obtain ⟨piece, hpiece, rfl⟩ := List.mem_map.mp hp
      exact hseparate piece hpiece

theorem split_append (a b : String) :
    split sep (a ++ String.singleton sep ++ b) = split sep a ++ split sep b := by
  unfold split
  rw [String.toList_append, String.toList_append, String.toList_singleton, List.append_assoc,
    List.singleton_append, splitChars_append, List.map_append]

end Splitting

/-! ## Blanks at the ends -/

/-- The text neither begins nor ends with a blank. -/
structure Trimmed (s : String) : Prop where
  first : ∀ c ∈ s.toList.head?, ¬ isBlank c
  last : ∀ c ∈ s.toList.getLast?, ¬ isBlank c

section Trimming

variable {s : String}

theorem trimChars_eq (cs : List Char) : trimChars cs = (cs.dropWhile isBlank).rdropWhile isBlank := rfl

/-- Nothing is left to trim once blanks are gone from both ends. -/
theorem trimmed_trim (s : String) : Trimmed (trim s) := by
  constructor
  · intro c hc
    rw [trim, String.toList_ofList, trimChars_eq] at hc
    -- nothing is cut off in front once the end is trimmed
    obtain ⟨rest, hrest⟩ := List.rdropWhile_prefix isBlank (s.toList.dropWhile isBlank)
    have hfirst := List.head?_dropWhile_not isBlank s.toList
    rw [← hrest, List.head?_append, Option.mem_def.mp hc] at hfirst
    simpa using hfirst
  · intro c hc
    rw [trim, String.toList_ofList, trimChars_eq] at hc
    obtain ⟨hne, rfl⟩ := List.mem_getLast?_eq_getLast hc
    exact List.rdropWhile_last_not isBlank _ hne

/-- A text is left alone exactly if it has no blanks at its ends. -/
theorem trim_eq_self_iff : trim s = s ↔ Trimmed s := by
  constructor
  · intro h
    rw [← h]
    exact trimmed_trim s
  · rintro ⟨hfirst, hlast⟩
    have hfront : s.toList.dropWhile isBlank = s.toList := by
      rw [List.dropWhile_eq_self_iff]
      intro hpos
      exact hfirst _ (List.head?_eq_getElem? ▸ List.getElem?_eq_getElem hpos)
    rw [trim, trimChars_eq, hfront, List.rdropWhile_eq_self_iff.mpr, String.ofList_toList]
    intro hne
    exact hlast _ (List.getLast?_eq_getLast_of_ne_nil hne)

theorem mem_of_mem_trim {c : Char} (h : c ∈ (trim s).toList) : c ∈ s.toList := by
  rw [trim, String.toList_ofList, trimChars_eq] at h
  exact (List.dropWhile_suffix isBlank).subset ((List.rdropWhile_prefix isBlank _).subset h)

end Trimming

/-! ## Upper case of ASCII letters -/

theorem isLower_iff {c : Char} : c.isLower ↔ 97 ≤ c.toNat ∧ c.toNat ≤ 122 := by
  show (decide (c.val ≥ 97) && decide (c.val ≤ 122)) = true ↔ _
  simp only [Bool.and_eq_true, decide_eq_true_eq, ge_iff_le, UInt32.le_iff_toNat_le]
  exact Iff.rfl

/-- A small letter becomes a capital one; anything else stays. -/
theorem toUpper_cases (c : Char) :
    (¬ c.isLower ∧ c.toUpper = c) ∨ (c.isLower ∧ 65 ≤ c.toUpper.toNat ∧ c.toUpper.toNat ≤ 90) := by
  by_cases h : c.isLower
  · have hascii : c.toNat < 128 := by
      have hbounds := isLower_iff.mp h
      omega
    have hcapital : ∀ c : Char, c.toNat < 128 → c.isLower → 65 ≤ c.toUpper.toNat ∧ c.toUpper.toNat ≤ 90 := by decide
    exact .inr ⟨h, hcapital c hascii h⟩
  · refine .inl ⟨h, dif_neg ?_⟩
    intro hbounds
    exact h (isLower_iff.mpr hbounds)

theorem not_isLower_toUpper (c : Char) : ¬ c.toUpper.isLower := by
  rcases toUpper_cases c with ⟨hlower, hself⟩ | hcapital
  · rwa [hself]
  · rw [isLower_iff]
    omega

theorem isBlank_toUpper (c : Char) (h : isBlank c.toUpper) : isBlank c := by
  rcases toUpper_cases c with ⟨-, hself⟩ | hcapital
  · rwa [hself] at h
  · simp only [isBlank, inRanges, blankRanges, CodeRange.contains, List.any_cons, List.any_nil, Bool.or_eq_true,
      Bool.and_eq_true, decide_eq_true_eq, Bool.false_eq_true, or_false] at h
    omega

/-- Signs and digits come from themselves only. -/
theorem eq_of_toUpper_eq {c d : Char} (hd : d.toNat < 65) (h : c.toUpper = d) : c = d := by
  rcases toUpper_cases c with ⟨-, hself⟩ | ⟨-, hcapital⟩
  · rwa [hself] at h
  · rw [h] at hcapital
    omega

/-- Upper case makes no blanks. -/
theorem trimmed_asciiUpper {s : String} (h : Trimmed s) : Trimmed (asciiUpper s) := by
  constructor
  · intro c hc
    rw [asciiUpper, String.toList_ofList, List.head?_map] at hc
    obtain ⟨d, hd, rfl⟩ := Option.map_eq_some_iff.mp hc
    exact fun hblank => h.first d hd (isBlank_toUpper d hblank)
  · intro c hc
    rw [asciiUpper, String.toList_ofList, List.getLast?_map] at hc
    obtain ⟨d, hd, rfl⟩ := Option.map_eq_some_iff.mp hc
    exact fun hblank => h.last d hd (isBlank_toUpper d hblank)

/-- A text without small letters is its own upper case. -/
theorem asciiUpper_eq_self {s : String} (h : ∀ c ∈ s.toList, ¬ c.isLower) : asciiUpper s = s := by
  have hself : ∀ c ∈ s.toList, c.toUpper = c := by
    intro c hc
    rcases toUpper_cases c with ⟨-, hself⟩ | ⟨hlower, -⟩
    · exact hself
    · exact absurd hlower (h c hc)
  rw [asciiUpper, List.map_congr_left hself, List.map_id', String.ofList_toList]

end Pushdown.Text
