import Pushdown.Text.Case

/-!
# `Proofs.Text.Case` — which texts lower case leaves alone

A text in which no character has the property Uppercase is nearly always its own lower case. The exceptions are
the title-case letters: they are neither upper nor lower case, and still have a lower case of their own.

The tables of letters are data, so facts about all characters are checked entry by entry. Both tables are in the
order of their code points, and one pass over them is enough.

## Contents

* `CodeRange.codes`, `sweep` — the code points of a range, and the pass that finds each in a list of ranges.
* `isTitlecase` — the title-case letters.
* `lowerChar_eq_singleton_iff` — the characters that lower case leaves alone.
* `lower_eq_self_iff` — the texts that lower case leaves alone.
-/

namespace Pushdown.Text

/-! ## Code points in ranges -/

/-- The code points of a range, in order. -/
def CodeRange.codes (r : CodeRange) : List Nat :=
  List.range' r.first ((r.last - r.first) / r.step + 1) r.step

/-- A code point of a range is found when the range is listed by its steps. -/
theorem CodeRange.mem_codes {r : CodeRange} {n : Nat} (h : r.contains n) : n ∈ r.codes := by
  simp only [CodeRange.contains, Bool.and_eq_true, decide_eq_true_eq, beq_iff_eq] at h
  obtain ⟨⟨hfirst, hlast⟩, hstep⟩ := h
  refine List.mem_range'.mpr ⟨(n - r.first) / r.step, ?_, ?_⟩
  · have hcount := Nat.div_le_div_right (c := r.step) (Nat.sub_le_sub_right hlast r.first)
    omega
  · have hsplit := Nat.mod_add_div (n - r.first) r.step
    omega

/-- Each code point passes the test or lies in a range; both lists are read once, from the front. -/
def sweep (passes : Nat → Bool) : List CodeRange → List Nat → Bool
  | _, [] => true
  | rs, n :: ns =>
    match rs.dropWhile (·.last < n) with
    | [] => false
    | r :: rest => (r.contains n || passes n) && sweep passes (r :: rest) ns

/-- What the pass finds is there, whatever the order of the lists. -/
theorem contains_of_sweep {passes : Nat → Bool} {rs : List CodeRange} {ns : List Nat}
    (h : sweep passes rs ns) {n : Nat} (hn : n ∈ ns) : (∃ r ∈ rs, r.contains n) ∨ passes n := by
  induction ns generalizing rs with
  | nil => cases hn
  | cons m ns ih =>
    unfold sweep at h
    split at h
    · cases h
    next r rest hdrop =>
      have hmem : ∀ s ∈ r :: rest, s ∈ rs := by
        intro s hs
        rw [← hdrop] at hs
        exact (List.dropWhile_sublist _).subset hs
      simp only [Bool.and_eq_true, Bool.or_eq_true] at h
      rcases List.mem_cons.mp hn with rfl | hn
      · exact h.1.imp_left fun hr => ⟨r, hmem r (by simp), hr⟩
      · refine (ih h.2 hn).imp_left ?_
        rintro ⟨s, hs, hcontains⟩
        exact ⟨s, hmem s hs, hcontains⟩

/-! ## Title case -/

/-- Letters of title case. -/
def titlecaseRanges : List CodeRange :=
  [⟨0x1c5, 0x1cb, 3⟩, ⟨0x1f2, 0x1f2, 1⟩, ⟨0x1f88, 0x1f8f, 1⟩, ⟨0x1f98, 0x1f9f, 1⟩, ⟨0x1fa8, 0x1faf, 1⟩,
   ⟨0x1fbc, 0x1fcc, 16⟩, ⟨0x1ffc, 0x1ffc, 1⟩]

/-- A letter of title case. -/
def isTitlecase (c : Char) : Bool := inRanges titlecaseRanges c

theorem mem_codes_of_inRanges {rs : List CodeRange} {c : Char} (h : inRanges rs c) :
    c.toNat ∈ rs.flatMap CodeRange.codes := by
  simp only [inRanges, List.any_eq_true] at h
  obtain ⟨r, hr, hcontains⟩ := h
  exact List.mem_flatMap.mpr ⟨r, hr, CodeRange.mem_codes hcontains⟩

/-- Whatever has a lower case of its own is upper case or title case. -/
theorem sweep_lowerRanges :
    sweep (fun n => titlecaseRanges.any (·.contains n)) uppercaseRanges
      (lowerRanges.flatMap (·.domain.codes)) := by decide +kernel

/-- Title-case letters have a lower case of their own, and it is one letter. -/
theorem lowerChar_titlecase_codes : ∀ n ∈ titlecaseRanges.flatMap CodeRange.codes,
    (lowerChar (Char.ofNat n)).length = 1 ∧ lowerChar (Char.ofNat n) ≠ [Char.ofNat n] := by
  decide +kernel

/-! ## Characters that lower case leaves alone -/

variable {c : Char}

/-- A character in no table is mapped to itself. -/
theorem mapChar_eq_self {ranges : List ShiftedRange} {expansions : List (Nat × List Nat)}
    (hranges : ∀ r ∈ ranges, ¬ r.domain.contains c.toNat) (hexpansions : expansions.lookup c.toNat = none) :
    mapChar ranges expansions c = [c] := by
  have hnone : ranges.find? (·.domain.contains c.toNat) = none := by
    simpa [List.find?_eq_none] using hranges
  rw [mapChar, hnone, hexpansions]

/-- Lower case leaves a character alone that is neither in upper nor in title case. -/
theorem lowerChar_of_plain (hupper : ¬ isUppercase c) (htitle : ¬ isTitlecase c) : lowerChar c = [c] := by
  refine mapChar_eq_self ?_ ?_
  · intro r hr hcontains
    have hcode : c.toNat ∈ lowerRanges.flatMap (·.domain.codes) :=
      List.mem_flatMap.mpr ⟨r, hr, CodeRange.mem_codes hcontains⟩
    rcases contains_of_sweep sweep_lowerRanges hcode with ⟨s, hs, hin⟩ | hin
    · exact hupper (List.any_eq_true.mpr ⟨s, hs, hin⟩)
    · exact htitle hin
  · -- the one expansion is that of a capital letter with a dot
    have hcode : (c.toNat == 0x130) = false := by
      rw [beq_eq_false_iff_ne]
      intro h
      apply hupper
      rw [isUppercase, inRanges, h]
      decide +kernel
    simp [lowerExpansions, List.lookup_cons, hcode]

/-- A title-case letter has a lower case that is another letter. -/
theorem lowerChar_of_titlecase (h : isTitlecase c) : ∃ d, lowerChar c = [d] ∧ d ≠ c := by
  have hcode := lowerChar_titlecase_codes _ (mem_codes_of_inRanges h)
  rw [Char.ofNat_toNat] at hcode
  obtain ⟨d, hd⟩ := List.length_eq_one_iff.mp hcode.1
  refine ⟨d, hd, ?_⟩
  rintro rfl
  exact hcode.2 hd

/-- Outside upper case, lower case leaves alone what is not title case. -/
theorem lowerChar_eq_singleton_iff (h : ¬ isUppercase c) :
    ∃ d, lowerChar c = [d] ∧ (d = c ↔ ¬ isTitlecase c) := by
  by_cases htitle : isTitlecase c
  · obtain ⟨d, hd, hne⟩ := lowerChar_of_titlecase htitle
    exact ⟨d, hd, by simp [htitle, hne]⟩
  · exact ⟨c, lowerChar_of_plain h htitle, by simp [htitle]⟩

/-! ## Texts that lower case leaves alone -/

/-- The capital sigma is the only character whose place counts, and it is upper case. -/
theorem ne_capitalSigma (h : ¬ isUppercase c) : c ≠ capitalSigma := by
  rintro rfl
  exact h (by decide +kernel)

/-- Without upper-case letters, a text is left alone exactly if it has no title-case letters. -/
theorem lowerChars_eq_self_iff {cs : List Char} (h : ∀ c ∈ cs, ¬ isUppercase c) (passed : List Char) :
    lowerChars passed cs = cs ↔ ∀ c ∈ cs, ¬ isTitlecase c := by
  induction cs generalizing passed with
  | nil => simp [lowerChars]
  | cons c cs ih =>
    have hc : ¬ isUppercase c := h c (by simp)
    obtain ⟨d, hd, hiff⟩ := lowerChar_eq_singleton_iff hc
    have hrest := ih (fun b hb => h b (by simp [hb])) (c :: passed)
    rw [lowerChars, if_neg (ne_capitalSigma hc), hd, List.singleton_append, List.cons_eq_cons, hiff, hrest,
      List.forall_mem_cons]

/-- **A text without upper-case letters is its own lower case if and only if it has no title-case letters.** -/
theorem lower_eq_self_iff {s : String} (h : hasUppercase s = false) :
    lower s = s ↔ ∀ c ∈ s.toList, ¬ isTitlecase c := by
  have hcs : ∀ c ∈ s.toList, ¬ isUppercase c := by
    simpa [hasUppercase] using h
  rw [← lowerChars_eq_self_iff hcs [], lower]
  constructor
  · intro hlower
    rw [← String.toList_ofList (l := lowerChars [] s.toList), hlower]
  · intro hlower
    rw [hlower, String.ofList_toList]

end Pushdown.Text
