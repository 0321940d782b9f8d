import Mathlib.Data.List.Chain
import Mathlib.Data.List.Pairwise
import Mathlib.Data.List.TakeWhile
import Pushdown.Proofs.Text.Case

/-!
# `Proofs.Text.RoundTrip` — which texts come back from upper case

A text that has no upper-case letters is taken to upper case and back. Most characters come back one by one. Those do
not whose upper case is written with several letters, as that of `ß`, and those that share their capital with another
letter, as the dotless `ı` does with `i`. The two small sigmas share theirs too, but there the place decides: a sigma
comes back as the final one exactly at the end of a word.

## Contents

* `InOrder`, `apart` — tables of ranges in the order of their code points, and the pass that keeps two of them apart.
* `sharedCapitals`, `isStray` — the characters that do not come back.
* `CaseTables` — what the tables say of each other.
* `IsCapital`, `exists_isCapital` — the others have one capital, and come back from it.
* `comesBack` — the texts of which every character comes back.
* `lower_upper_eq_self_iff` — a text comes back if and only if every character of it does.
-/

namespace Pushdown.Text

/-! ## Tables in order -/

/-- The ranges stand in the order of their code points and have none in common. -/
def InOrder (rs : List CodeRange) : Prop := rs.IsChain fun r s => r.first ≤ r.last ∧ r.last < s.first

instance (rs : List CodeRange) : Decidable (InOrder rs) :=
  inferInstanceAs (Decidable (rs.IsChain fun r s => r.first ≤ r.last ∧ r.last < s.first))

section Ranges

variable {rs ss : List CodeRange} {r s : CodeRange} {n : Nat}

theorem CodeRange.bounds_of_contains (h : r.contains n) : r.first ≤ n ∧ n ≤ r.last := by
  simp only [CodeRange.contains, Bool.and_eq_true, decide_eq_true_eq] at h
  exact h.1

theorem InOrder.pairwise (h : InOrder rs) : rs.Pairwise fun r s => r.first ≤ r.last ∧ r.last < s.first := by
  have htrans : IsTrans CodeRange fun r s => r.first ≤ r.last ∧ r.last < s.first :=
    ⟨fun r s t hrs hst => ⟨hrs.1, by omega⟩⟩
  exact List.isChain_iff_pairwise.mp h

theorem InOrder.first_le (h : InOrder (r :: rs)) (hs : s ∈ r :: rs) : r.first ≤ s.first := by
  rcases List.mem_cons.mp hs with rfl | hs
  · exact Nat.le_refl _
  · have hlt := List.rel_of_pairwise_cons h.pairwise hs
    omega

theorem InOrder.tail (h : InOrder (r :: rs)) : InOrder rs := List.IsChain.tail h

/-- In an ordered table, a code point lies in one range at most. -/
theorem InOrder.eq_of_contains {ranges : List ShiftedRange} {a b : ShiftedRange}
    (h : InOrder (ranges.map (·.domain))) (ha : a ∈ ranges) (hb : b ∈ ranges)
    (hacontains : a.domain.contains n) (hbcontains : b.domain.contains n) : a = b := by
  have happart : ranges.Pairwise fun a b => ¬ (a.domain.contains n ∧ b.domain.contains n) := by
    refine (List.pairwise_map.mp h.pairwise).imp ?_
    rintro a b hlt ⟨hca, hcb⟩
    have hlast := (CodeRange.bounds_of_contains hca).2
    have hfirst := (CodeRange.bounds_of_contains hcb).1
    omega
  have hsymm : Std.Symm fun a b : ShiftedRange => ¬ (a.domain.contains n ∧ b.domain.contains n) :=
    ⟨fun a b hnot hboth => hnot hboth.symm⟩
  by_contra hne
  exact happart.forall ha hb hne ⟨hacontains, hbcontains⟩

/-- What the range of a code point says is what the whole table says. -/
theorem mapChar_of_contains {ranges : List ShiftedRange} {expansions : List (Nat × List Nat)} {a : ShiftedRange}
    {c : Char} (h : InOrder (ranges.map (·.domain))) (ha : a ∈ ranges) (hc : a.domain.contains c.toNat) :
    mapChar ranges expansions c = [Char.ofNat (a.image c.toNat)] := by
  have hfind : ranges.find? (·.domain.contains c.toNat) = some a := by
    cases hfound : ranges.find? (·.domain.contains c.toNat) with
    | none => exact absurd hc (List.find?_eq_none.mp hfound a ha)
    | some b =>
      have hb : b.domain.contains c.toNat := by simpa using List.find?_some hfound
      rw [h.eq_of_contains (List.mem_of_find?_eq_some hfound) ha hb hc]
  rw [mapChar, hfind]

/-- No range of the second table meets one of the first; both are read once, from the front. -/
def apart : List CodeRange → List CodeRange → Bool
  | _, [] => true
  | rs, s :: ss =>
    match rs.dropWhile (·.last < s.first) with
    | [] => true
    | r :: rest => s.last < r.first && apart (r :: rest) ss

/-- One sweep over both tables is enough: what is dropped from the first lies in front of all that is left of the
second. -/
theorem not_contains_of_apart (hrs : InOrder rs) (hss : InOrder ss) (h : apart rs ss) (hr : r ∈ rs)
    (hs : s ∈ ss) (hn : s.contains n) : ¬ r.contains n := by
  obtain ⟨hfirst, hlast⟩ := CodeRange.bounds_of_contains hn
  intro hcontains
  have hbounds := CodeRange.bounds_of_contains hcontains
  induction ss generalizing rs with
  | nil => cases hs
  | cons t ss ih =>
    have hle := hss.first_le hs
    -- What is dropped ends in front of `t`, and so in front of every range of the second table that is left.
    unfold apart at h
    split at h
    next hdrop =>
      have hbefore := List.dropWhile_eq_nil_iff.mp hdrop r hr
      rw [decide_eq_true_eq] at hbefore
      omega
    next r' rest hdrop =>
      simp only [Bool.and_eq_true, decide_eq_true_eq] at h
      rw [← List.takeWhile_append_dropWhile (p := fun r => decide (r.last < t.first)) (l := rs), hdrop] at hr hrs
      rcases List.mem_append.mp hr with hbefore | hbehind
      · have hlt := List.mem_takeWhile_imp hbefore
        rw [decide_eq_true_eq] at hlt
        omega
      · have hrest : InOrder (r' :: rest) := List.IsChain.right_of_append hrs
        rcases List.mem_cons.mp hs with rfl | hs
        · have hge := hrest.first_le hbehind
          omega
        · exact ih hrest hss.tail h.2 hbehind hs

end Ranges

/-- Every code point of the second range comes back by the first. -/
def ShiftedRange.undoes (s r : ShiftedRange) : Bool :=
  s.domain.first ≤ r.target && r.image r.domain.last ≤ s.domain.last && s.image r.target = r.domain.first &&
    (r.target - s.domain.first) % s.domain.step = 0 &&
    (r.domain.first = r.domain.last || r.domain.step % s.domain.step = 0) &&
    (r.image r.domain.last < 0xd800 || (0xdfff < r.target && r.image r.domain.last < 0x110000))

/-- The test of two ranges compares their ends and their steps only; since the steps of one are multiples of the
other's, it holds of every code point between the ends. -/
theorem ShiftedRange.contains_of_undoes {s r : ShiftedRange} {n : Nat} (h : s.undoes r) (hn : r.domain.contains n) :
    s.domain.contains (Char.ofNat (r.image n)).toNat ∧ s.image (Char.ofNat (r.image n)).toNat = n := by
  obtain ⟨hfirst, hlast⟩ := CodeRange.bounds_of_contains hn
  simp only [CodeRange.contains, Bool.and_eq_true, beq_iff_eq] at hn
  simp only [undoes, Bool.and_eq_true, Bool.or_eq_true, decide_eq_true_eq] at h
  simp only [image] at h
  obtain ⟨⟨⟨⟨⟨hlow, hhigh⟩, hback⟩, hstart⟩, hsteps⟩, hvalid⟩ := h
  have hcode : (Char.ofNat (r.image n)).toNat = r.image n := by
    apply toNat_ofNat_of_isValidChar
    simp only [Nat.isValidChar, image]
    omega
  -- The steps of `r` are multiples of those of `s`, so that `s` passes over none of its images.
  have hdvd : s.domain.step ∣ n - r.domain.first := by
    rcases hsteps with hsingle | hsteps
    · have hzero : n - r.domain.first = 0 := by omega
      rw [hzero]
      exact Nat.dvd_zero _
    · exact Nat.dvd_trans (Nat.dvd_of_mod_eq_zero hsteps) (Nat.dvd_of_mod_eq_zero hn.2)
  have hsplit : r.image n - s.domain.first = (r.target - s.domain.first) + (n - r.domain.first) := by
    simp only [image]
    omega
  rw [hcode]
  constructor
  · simp only [CodeRange.contains, Bool.and_eq_true, decide_eq_true_eq, beq_iff_eq]
    refine ⟨?_, ?_⟩
    · rw [image]
      omega
    · rw [hsplit]
      exact Nat.mod_eq_zero_of_dvd (Nat.dvd_add (Nat.dvd_of_mod_eq_zero hstart) hdvd)
  · rw [image, hsplit]
    omega

/-! ## What the tables say -/

/-- Letters that share their capital with another letter, and do not come back from it. The final sigma is not among
them: whether it comes back depends on its place. -/
def sharedCapitals : List Nat :=
  [0xb5, 0x131, 0x17f, 0x1c5, 0x1c8, 0x1cb, 0x1f2, 0x345, 0x3d0, 0x3d1, 0x3d5, 0x3d6, 0x3f0, 0x3f1, 0x3f5,
   0x1c80, 0x1c81, 0x1c82, 0x1c83, 0x1c84, 0x1c85, 0x1c86, 0x1c87, 0x1c88, 0x1e9b, 0x1fbe]

/-- All code points of the range share their capital with another letter. -/
def CodeRange.isShared (r : CodeRange) : Bool :=
  r.codes.all fun n => n = 'ς'.toNat || sharedCapitals.contains n

/-- The ranges of letters that come back from upper case. -/
def returningRanges : List ShiftedRange := upperRanges.filter fun r => !r.domain.isShared

/-- The capital sigma and the two small ones. -/
def sigmaRanges : List CodeRange := [⟨0x3a3, 0x3a3, 1⟩, ⟨0x3c2, 0x3c3, 1⟩]

/-- A table of letters: they are cased, and none of them is ignorable. -/
structure LetterTable (rs : List CodeRange) : Prop where
  inOrder : InOrder rs
  cased : sweep (fun _ => false) casedRanges (rs.flatMap CodeRange.codes)
  notIgnorable : apart caseIgnorableRanges rs

/-- What the tables of cases say of each other. -/
structure CaseTables : Prop where
  inOrder_ignorable : InOrder caseIgnorableRanges
  lower : LetterTable (lowerRanges.map (·.domain))
  returning : LetterTable (returningRanges.map (·.domain))
  sigma : LetterTable sigmaRanges
  /-- A range of letters that come back has a range that takes it back. -/
  undone : returningRanges.all fun r => (lowerRanges.find? fun s => r.target ≤ s.domain.last).any (·.undoes r)
  /-- Letters that share their capital do not come back, and none of their capitals is the sigma. -/
  shared : ∀ n ∈ sharedCapitals,
    (upperChar (Char.ofNat n)).flatMap lowerChar ≠ [Char.ofNat n] ∧ capitalSigma ∉ upperChar (Char.ofNat n)
  several : ∀ e ∈ upperExpansions, 2 ≤ e.2.length ∧ capitalSigma ∉ e.2.map Char.ofNat
  titlecase : ∀ n ∈ titlecaseRanges.flatMap CodeRange.codes, upperChar (Char.ofNat n) ≠ [Char.ofNat n]
  upper_sigma : upperChar 'σ' = [capitalSigma] ∧ upperChar 'ς' = [capitalSigma]
  lower_sigma : lowerChar capitalSigma = ['σ']

-- The kernel reads the tables; every fact about them that is used below is read here, once.
theorem caseTables : CaseTables where
  inOrder_ignorable := by decide +kernel
  lower := ⟨by decide +kernel, by decide +kernel, by decide +kernel⟩
  returning := ⟨by decide +kernel, by decide +kernel, by decide +kernel⟩
  sigma := ⟨by decide +kernel, by decide +kernel, by decide +kernel⟩
  undone := by decide +kernel
  shared := by decide +kernel
  several := by decide +kernel
  titlecase := by decide +kernel
  upper_sigma := by decide +kernel
  lower_sigma := by decide +kernel

/-! ## Characters that come back -/

/-- The second character is the one capital of the first, and counts as it does for a sigma next to it. -/
structure IsCapital (c d : Char) : Prop where
  upper : upperChar c = [d]
  cased : isCased d = isCased c
  ignorable : isCaseIgnorable d = isCaseIgnorable c

/-- One of the two small sigmas. -/
def isSmallSigma (c : Char) : Bool := c = 'σ' || c = 'ς'

/-- The upper case of the character is written with several letters, or it is that of another letter. -/
def isStray (c : Char) : Bool := (upperChar c).length ≠ 1 || sharedCapitals.contains c.toNat

/-- A code point in a table of letters is cased and not ignorable. -/
theorem LetterTable.isCased_of_contains {rs : List CodeRange} {r : CodeRange} {c : Char} (h : LetterTable rs)
    (hr : r ∈ rs) (hcontains : r.contains c.toNat) : isCased c = true ∧ isCaseIgnorable c = false := by
  constructor
  · have hcode : c.toNat ∈ rs.flatMap CodeRange.codes := List.mem_flatMap.mpr ⟨r, hr, CodeRange.mem_codes hcontains⟩
    rcases contains_of_sweep h.cased hcode with ⟨s, hs, hin⟩ | hin
    · exact List.any_eq_true.mpr ⟨s, hs, hin⟩
    · cases hin
  · rw [isCaseIgnorable, inRanges, List.any_eq_false]
    intro s hs
    exact not_contains_of_apart caseTables.inOrder_ignorable h.inOrder h.notIgnorable hs hr hcontains

/-- Both small sigmas have the capital sigma as their upper case. -/
theorem isCapital_smallSigma {c : Char} (h : isSmallSigma c) : IsCapital c capitalSigma := by
  have hcapital := caseTables.sigma.isCased_of_contains (c := capitalSigma) List.mem_cons_self (by decide)
  simp only [isSmallSigma, Bool.or_eq_true, decide_eq_true_eq] at h
  have hsmall : isCased c = true ∧ isCaseIgnorable c = false := by
    refine caseTables.sigma.isCased_of_contains (List.mem_cons_of_mem _ List.mem_cons_self) ?_
    rcases h with rfl | rfl <;> decide
  refine ⟨?_, by rw [hcapital.1, hsmall.1], by rw [hcapital.2, hsmall.2]⟩
  rcases h with rfl | rfl
  · exact caseTables.upper_sigma.1
  · exact caseTables.upper_sigma.2

section Characters

variable {c : Char}

/-- No character is mapped to nothing. -/
theorem mapChar_ne_nil {ranges : List ShiftedRange} {expansions : List (Nat × List Nat)}
    (h : ∀ e ∈ expansions, e.2 ≠ []) : mapChar ranges expansions c ≠ [] := by
  unfold mapChar
  split
  · simp
  · split
    next ns hlookup =>
      obtain ⟨before, behind, hsplit, -⟩ := List.lookup_eq_some_iff.mp hlookup
      have hns := h (c.toNat, ns) (by simp [hsplit])
      simpa using hns
    · simp

theorem lowerChar_ne_nil (c : Char) : lowerChar c ≠ [] := mapChar_ne_nil (by decide)

theorem upperChar_ne_nil (c : Char) : upperChar c ≠ [] := by
  refine mapChar_ne_nil fun e he => ?_
  have hseveral := (caseTables.several e he).1
  exact List.ne_nil_of_length_pos (by omega)

/-- A character is in no table, or in a range, or it is written with several letters. -/
theorem upperChar_cases (hc : ¬ isUppercase c) :
    (upperChar c = [c] ∧ lowerChar c = [c]) ∨
      (∃ r ∈ upperRanges, r.domain.contains c.toNat ∧ upperChar c = [Char.ofNat (r.image c.toNat)]) ∨
      (2 ≤ (upperChar c).length ∧ capitalSigma ∉ upperChar c) := by
  cases hfind : upperRanges.find? (·.domain.contains c.toNat) with
  | some r =>
    refine .inr (.inl ⟨r, List.mem_of_find?_eq_some hfind, by simpa using List.find?_some hfind, ?_⟩)
    rw [upperChar, mapChar, hfind]
  | none =>
    cases hlookup : upperExpansions.lookup c.toNat with
    | some ns =>
      have hupper : upperChar c = ns.map Char.ofNat := by rw [upperChar, mapChar, hfind, hlookup]
      obtain ⟨before, behind, hsplit, -⟩ := List.lookup_eq_some_iff.mp hlookup
      have hseveral := caseTables.several (c.toNat, ns) (by simp [hsplit])
      rw [hupper, List.length_map]
      exact .inr (.inr hseveral)
    | none =>
      -- Only letters of upper or title case have a lower case of their own, and title case changes in upper case.
      have hupper : upperChar c = [c] := by rw [upperChar, mapChar, hfind, hlookup]
      have htitle : ¬ isTitlecase c := by
        intro htitle
        have hne := caseTables.titlecase _ (mem_codes_of_inRanges htitle)
        rw [Char.ofNat_toNat] at hne
        exact hne hupper
      exact .inl ⟨hupper, lowerChar_of_plain hc htitle⟩

/-- A range of letters that come back has a range that takes it back. -/
theorem exists_undoes {r : ShiftedRange} (hr : r ∈ returningRanges) : ∃ s ∈ lowerRanges, s.undoes r := by
  have hfound := List.all_eq_true.mp caseTables.undone r hr
  cases hfind : lowerRanges.find? fun s => r.target ≤ s.domain.last with
  | none => simp [hfind] at hfound
  | some s =>
    rw [hfind] at hfound
    exact ⟨s, List.mem_of_find?_eq_some hfind, hfound⟩

/-- **What is not stray has one capital, and comes back from it.** Both are letters, or the character is its own upper
case. -/
theorem exists_isCapital (hc : ¬ isUppercase c) (hsigma : ¬ isSmallSigma c) (h : ¬ isStray c) :
    ∃ d, IsCapital c d ∧ lowerChar d = [c] ∧ d ≠ capitalSigma := by
  simp only [isStray, Bool.or_eq_true, decide_eq_true_eq, not_or, not_not] at h
  simp only [isSmallSigma, Bool.or_eq_true, decide_eq_true_eq, not_or] at hsigma
  rcases upperChar_cases hc with ⟨hupper, hlower⟩ | ⟨r, hr, hcontains, hupper⟩ | ⟨hseveral, -⟩
  · exact ⟨c, ⟨hupper, rfl, rfl⟩, hlower, ne_capitalSigma hc⟩
  · -- The range is not left out as a shared one, for it holds `c`.
    have hreturning : r ∈ returningRanges := by
      refine List.mem_filter.mpr ⟨hr, ?_⟩
      rw [Bool.not_eq_true', ← Bool.not_eq_true]
      intro hshared
      have hcode := List.all_eq_true.mp hshared _ (CodeRange.mem_codes hcontains)
      simp only [Bool.or_eq_true, decide_eq_true_eq] at hcode
      rcases hcode with hcode | hcode
      · apply hsigma.2
        rw [← Char.ofNat_toNat c, hcode]
        rfl
      · exact h.2 hcode
    obtain ⟨s, hs, hundoes⟩ := exists_undoes hreturning
    obtain ⟨hback, himage⟩ := ShiftedRange.contains_of_undoes hundoes hcontains
    have hlower : lowerChar (Char.ofNat (r.image c.toNat)) = [c] := by
      rw [lowerChar, mapChar_of_contains caseTables.lower.inOrder hs hback, himage, Char.ofNat_toNat]
    have hcased := caseTables.returning.isCased_of_contains (List.mem_map_of_mem hreturning) hcontains
    have hcapital := caseTables.lower.isCased_of_contains (List.mem_map_of_mem hs) hback
    refine ⟨_, ⟨hupper, by rw [hcapital.1, hcased.1], by rw [hcapital.2, hcased.2]⟩, hlower, ?_⟩
    -- The capital sigma alone goes back to the sigma that is not final.
    intro hcapitalSigma
    rw [hcapitalSigma, caseTables.lower_sigma] at hlower
    cases hlower
    exact hsigma.1 rfl
  · omega

/-- Only the small sigmas have the sigma as their capital. -/
theorem capitalSigma_not_mem_upperChar (hc : ¬ isUppercase c) (hsigma : ¬ isSmallSigma c) :
    capitalSigma ∉ upperChar c := by
  by_cases hshared : c.toNat ∈ sharedCapitals
  · have hne := (caseTables.shared c.toNat hshared).2
    rwa [Char.ofNat_toNat] at hne
  by_cases hone : (upperChar c).length = 1
  · have hstray : ¬ isStray c := by simp [isStray, hone, hshared]
    obtain ⟨d, hcapital, -, hd⟩ := exists_isCapital hc hsigma hstray
    rw [hcapital.upper, List.mem_singleton]
    exact hd.symm
  · rcases upperChar_cases hc with ⟨hupper, -⟩ | ⟨r, -, -, hupper⟩ | ⟨-, hnot⟩
    · simp [hupper] at hone
    · simp [hupper] at hone
    · exact hnot

theorem length_le_length_flatMap {f : Char → List Char} (hf : ∀ c, f c ≠ []) (cs : List Char) :
    cs.length ≤ (cs.flatMap f).length := by
  induction cs with
  | nil => simp
  | cons c cs ih =>
    have hpos := List.length_pos_iff.mpr (hf c)
    rw [List.flatMap_cons, List.length_append, List.length_cons]
    omega

/-- A character comes back by itself if and only if it is not stray. -/
theorem flatMap_lowerChar_upperChar_iff (hc : ¬ isUppercase c) (hsigma : ¬ isSmallSigma c) :
    (upperChar c).flatMap lowerChar = [c] ↔ ¬ isStray c := by
  constructor
  · intro h hstray
    simp only [isStray, Bool.or_eq_true, decide_eq_true_eq] at hstray
    rcases hstray with hlength | hshared
    · have hle := length_le_length_flatMap lowerChar_ne_nil (upperChar c)
      have hpos := List.length_pos_iff.mpr (upperChar_ne_nil c)
      rw [h, List.length_singleton] at hle
      omega
    · have hne := (caseTables.shared c.toNat (by simpa using hshared)).1
      rw [Char.ofNat_toNat] at hne
      exact hne h
  · intro h
    obtain ⟨d, hcapital, hlower, -⟩ := exists_isCapital hc hsigma h
    simp [hcapital.upper, hlower]

end Characters

/-! ## Texts that come back -/

/-- Every character comes back, given the characters already passed, the nearest first: a small sigma has the form
that its place asks for, and nothing else is stray. -/
def comesBack (passed : List Char) : List Char → Bool
  | [] => true
  | c :: rest =>
    (if isSmallSigma c then decide (c = 'ς') == (startsCased passed && !startsCased rest) else !isStray c) &&
      comesBack (c :: passed) rest

section Texts

variable {cs passed : List Char} {c : Char}

theorem startsCased_cons (c : Char) (cs : List Char) :
    startsCased (c :: cs) = if isCaseIgnorable c then startsCased cs else isCased c := by
  unfold startsCased
  rw [List.dropWhile_cons]
  cases isCaseIgnorable c <;> rfl

/-- Where there is no capital sigma, lower case is taken character by character. -/
theorem lowerChars_append {us : List Char} (h : capitalSigma ∉ us) (passed vs : List Char) :
    lowerChars passed (us ++ vs) = us.flatMap lowerChar ++ lowerChars (us.reverse ++ passed) vs := by
  induction us generalizing passed with
  | nil => rfl
  | cons u us ih =>
    simp only [List.mem_cons, not_or] at h
    rw [List.cons_append, lowerChars, if_neg (Ne.symm h.1), ih h.2, List.flatMap_cons]
    simp

/-- Lower case makes no text shorter. -/
theorem length_le_length_lowerChars (passed cs : List Char) : cs.length ≤ (lowerChars passed cs).length := by
  induction cs generalizing passed with
  | nil => simp
  | cons c cs ih =>
    have hrest := ih (c :: passed)
    have hpos := List.length_pos_iff.mpr (lowerChar_ne_nil c)
    rw [lowerChars, List.length_append, List.length_cons]
    split
    · rw [List.length_singleton]
      omega
    · omega

/-- A text whose parts are all at least as long as they should be comes back only part by part. -/
theorem append_eq_cons_iff {piece rest : List Char} (hpiece : piece ≠ []) (hrest : cs.length ≤ rest.length) :
    piece ++ rest = c :: cs ↔ piece = [c] ∧ rest = cs := by
  constructor
  · intro h
    have hlength := congrArg List.length h
    have hpos := List.length_pos_iff.mpr hpiece
    rw [List.length_append, List.length_cons] at hlength
    have hsplit : [c] ++ cs = c :: cs := rfl
    rw [← hsplit] at h
    exact List.append_inj h (by simp; omega)
  · rintro ⟨rfl, rfl⟩
    rfl

theorem length_le_length_lowerChars_upper (passed cs : List Char) :
    cs.length ≤ (lowerChars passed (cs.flatMap upperChar)).length :=
  Nat.le_trans (length_le_length_flatMap upperChar_ne_nil cs) (length_le_length_lowerChars passed _)

/-- A character that may come back counts in upper case as it did before. -/
theorem startsCased_upperChar (hc : ¬ isUppercase c) (h : isSmallSigma c ∨ ¬ isStray c) {us vs : List Char}
    (hrest : startsCased us = startsCased vs) :
    startsCased (upperChar c ++ us) = startsCased (c :: vs) ∧
      startsCased ((upperChar c).reverse ++ us) = startsCased (c :: vs) := by
  obtain ⟨d, hd⟩ : ∃ d, IsCapital c d := by
    by_cases hsigma : isSmallSigma c
    · exact ⟨capitalSigma, isCapital_smallSigma hsigma⟩
    · obtain ⟨d, hd, -⟩ := exists_isCapital hc hsigma (h.resolve_left hsigma)
      exact ⟨d, hd⟩
  have hcons : startsCased (d :: us) = startsCased (c :: vs) := by
    rw [startsCased_cons, startsCased_cons, hd.cased, hd.ignorable, hrest]
  rw [hd.upper]
  exact ⟨hcons, hcons⟩

/-- In a text that comes back, the first character may, and the rest does behind it. -/
theorem of_comesBack_cons (h : comesBack passed (c :: cs)) :
    (isSmallSigma c ∨ ¬ isStray c) ∧ comesBack (c :: passed) cs := by
  rw [comesBack, Bool.and_eq_true] at h
  refine ⟨?_, h.2⟩
  by_cases hsigma : isSmallSigma c
  · exact .inl hsigma
  · have hstray := h.1
    rw [if_neg hsigma] at hstray
    exact .inr (by simpa using hstray)

/-- In upper case, a text that comes back begins with a cased letter exactly if it did before, so that a sigma in
front of it keeps its place in the word. -/
theorem startsCased_flatMap_upperChar (hcs : ∀ c ∈ cs, ¬ isUppercase c) (h : comesBack passed cs) :
    startsCased (cs.flatMap upperChar) = startsCased cs := by
  induction cs generalizing passed with
  | nil => rfl
  | cons c cs ih =>
    obtain ⟨hc, hrest⟩ := of_comesBack_cons h
    rw [List.forall_mem_cons] at hcs
    rw [List.flatMap_cons]
    exact (startsCased_upperChar hcs.1 hc (ih hcs.2 hrest)).1

/-- **A text comes back behind what was passed exactly if each of its characters does.** Induction along the text: what
was passed in upper case has to count like what was passed before, which is all that a sigma asks of it. Lengths
separate the first character from the rest, since neither case makes a text shorter. -/
theorem lowerChars_flatMap_upperChar_iff (hcs : ∀ c ∈ cs, ¬ isUppercase c) {before : List Char}
    (hbefore : startsCased before = startsCased passed) :
    lowerChars before (cs.flatMap upperChar) = cs ↔ comesBack passed cs := by
  induction cs generalizing passed before with
  | nil => simp [lowerChars, comesBack]
  | cons c cs ih =>
    rw [List.forall_mem_cons] at hcs
    rw [List.flatMap_cons, comesBack, Bool.and_eq_true]
    by_cases hsigma : isSmallSigma c
    · -- The place of a sigma is the same in upper case, if all that follows comes back.
      have hnext := (startsCased_upperChar hcs.1 (.inl hsigma) hbefore).1
      rw [(isCapital_smallSigma hsigma).upper, List.singleton_append] at hnext ⊢
      rw [lowerChars, if_pos rfl,
        append_eq_cons_iff (by simp) (length_le_length_lowerChars_upper _ _), ih hcs.2 hnext, if_pos hsigma]
      refine and_congr_left fun hrest => ?_
      rw [startsCased_flatMap_upperChar hcs.2 hrest, hbefore]
      simp only [isSmallSigma, Bool.or_eq_true, decide_eq_true_eq] at hsigma
      rcases hsigma with rfl | rfl
      · cases startsCased passed && !startsCased cs <;> decide
      · cases startsCased passed && !startsCased cs <;> decide
    · have hpiece : (upperChar c).flatMap lowerChar ≠ [] := by
        have hle := length_le_length_flatMap lowerChar_ne_nil (upperChar c)
        have hpos := List.length_pos_iff.mpr (upperChar_ne_nil c)
        exact List.ne_nil_of_length_pos (by omega)
      rw [lowerChars_append (capitalSigma_not_mem_upperChar hcs.1 hsigma),
        append_eq_cons_iff hpiece (length_le_length_lowerChars_upper _ _),
        flatMap_lowerChar_upperChar_iff hcs.1 hsigma, if_neg hsigma]
      simp only [Bool.not_eq_true']
      rw [← Bool.not_eq_true]
      refine and_congr_right fun hstray => ?_
      exact ih hcs.2 (startsCased_upperChar hcs.1 (.inr hstray) hbefore).2

end Texts

/-- **A text without upper-case letters comes back from upper case if and only if each of its characters does.** -/
theorem lower_upper_eq_self_iff {s : String} (h : hasUppercase s = false) :
    lower (upper s) = s ↔ comesBack [] s.toList := by
  have hcs : ∀ c ∈ s.toList, ¬ isUppercase c := by
    simpa [hasUppercase] using h
  rw [← lowerChars_flatMap_upperChar_iff hcs (rfl : startsCased [] = startsCased []), lower, upper,
    String.toList_ofList]
  constructor
  · intro hlower
    rw [← String.toList_ofList (l := lowerChars [] (s.toList.flatMap upperChar)), hlower]
  · intro hlower
    rw [hlower, String.ofList_toList]

end Pushdown.Text
