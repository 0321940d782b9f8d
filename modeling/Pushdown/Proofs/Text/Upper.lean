import Pushdown.Proofs.Text.RoundTrip

/-!
# `Proofs.Text.Upper` — upper case leaves upper case alone

The letters that a text has in upper case are their own upper case, also where one character becomes several. Nothing in
the shape of the tables says so: a letter could be the capital of one and have another capital itself. That none does is
read off the tables, range by range, against the tables themselves.

## Contents

* `avoids` — a range that has no code point in common with a table.
* `SettledTable` — a mapping by tables that changes nothing when it is applied again.
* `SettledTable.mapChar_of_mem` — what it gives for a character, it leaves alone.
* `upper_upper` — upper case is taken once.
-/

namespace Pushdown.Text

/-! ## Ranges apart from a table -/

/-- The range of a single code point. -/
def CodeRange.single (n : Nat) : CodeRange := ⟨n, n, 1⟩

/-- No range of a table, which is in order, has a code point in common with `s`. Only the ranges that lie around `s` are
looked into. -/
def avoids (s : CodeRange) : List CodeRange → Bool
  | [] => true
  | r :: rs =>
    if r.last < s.first then avoids s rs
    else s.last < r.first || (s.codes.all (fun n => !r.contains n) && avoids s rs)

section Ranges

variable {rs : List CodeRange} {r s : CodeRange} {n : Nat}

/-- The test looks into the ranges around `s` only; the order of the table answers for all others. -/
theorem not_contains_of_avoids (hrs : InOrder rs) (h : avoids s rs) (hr : r ∈ rs) (hn : s.contains n) :
    ¬ r.contains n := by
  intro hcontains
  obtain ⟨hsfirst, hslast⟩ := CodeRange.bounds_of_contains hn
  obtain ⟨hrfirst, hrlast⟩ := CodeRange.bounds_of_contains hcontains
  induction rs with
  | nil => cases hr
  | cons t rs ih =>
    rw [avoids] at h
    split at h
    next hbefore =>
      rcases List.mem_cons.mp hr with rfl | hr
      · omega
      · exact ih hrs.tail h hr
    next =>
      simp only [Bool.or_eq_true, Bool.and_eq_true, decide_eq_true_eq] at h
      rcases h with hbehind | ⟨hnone, hrest⟩
      · -- the table is in order, so that all that is left lies behind `s`
        have hle := hrs.first_le hr
        omega
      · rcases List.mem_cons.mp hr with rfl | hr
        · have hcode := List.all_eq_true.mp hnone n (CodeRange.mem_codes hn)
          rw [hcontains] at hcode
          cases hcode
        · exact ih hrs.tail hrest hr

/-- The range lies on one side of the code points that are no characters. -/
def CodeRange.isValid (r : CodeRange) : Bool :=
  r.last < 0xd800 || (0xdfff < r.first && r.last < 0x110000)

theorem CodeRange.toNat_ofNat (hr : r.isValid) (hn : r.contains n) : (Char.ofNat n).toNat = n := by
  obtain ⟨hfirst, hlast⟩ := bounds_of_contains hn
  simp only [isValid, Bool.or_eq_true, Bool.and_eq_true, decide_eq_true_eq] at hr
  apply toNat_ofNat_of_isValidChar
  simp only [Nat.isValidChar]
  omega

theorem CodeRange.contains_single : (single n).contains n := by simp [single, contains]

/-- The code points that a range is moved to. -/
def ShiftedRange.images (r : ShiftedRange) : CodeRange := ⟨r.target, r.image r.domain.last, r.domain.step⟩

/-- The images of a range are a range with the same steps. -/
theorem ShiftedRange.contains_images {r : ShiftedRange} (hn : r.domain.contains n) :
    r.images.contains (r.image n) := by
  obtain ⟨hfirst, hlast⟩ := CodeRange.bounds_of_contains hn
  simp only [CodeRange.contains, Bool.and_eq_true, decide_eq_true_eq, beq_iff_eq] at hn ⊢
  simp only [images, image]
  refine ⟨by omega, ?_⟩
  rw [Nat.add_sub_cancel_left]
  exact hn.2

end Ranges

/-! ## Tables that change nothing twice -/

section Tables

variable {ranges : List ShiftedRange} {expansions : List (Nat × List Nat)}

/-- All that a mapping by tables gives for characters that it changes. -/
def imageRanges (ranges : List ShiftedRange) (expansions : List (Nat × List Nat)) : List CodeRange :=
  ranges.map ShiftedRange.images ++ (expansions.flatMap (·.2)).map CodeRange.single

/-- What the mapping gives for a character is in none of its tables. -/
structure SettledTable (ranges : List ShiftedRange) (expansions : List (Nat × List Nat)) : Prop where
  domains : InOrder (ranges.map (·.domain))
  keys : InOrder (expansions.map fun e => CodeRange.single e.1)
  images : (imageRanges ranges expansions).all fun s =>
    s.isValid && avoids s (ranges.map (·.domain)) && avoids s (expansions.map fun e => CodeRange.single e.1)

/-- An image of a settled table is found in none of its ranges and among none of its expansions, and so is left
alone. -/
theorem SettledTable.mapChar_image (h : SettledTable ranges expansions) {s : CodeRange} {n : Nat}
    (hs : s ∈ imageRanges ranges expansions) (hn : s.contains n) :
    mapChar ranges expansions (Char.ofNat n) = [Char.ofNat n] := by
  have himages := List.all_eq_true.mp h.images s hs
  simp only [Bool.and_eq_true] at himages
  obtain ⟨⟨hvalid, hdomains⟩, hkeys⟩ := himages
  refine mapChar_eq_self ?_ ?_
  · intro r hr
    rw [CodeRange.toNat_ofNat hvalid hn]
    exact not_contains_of_avoids h.domains hdomains (List.mem_map_of_mem hr) hn
  · rw [CodeRange.toNat_ofNat hvalid hn, List.lookup_eq_none_iff]
    intro e he
    rw [bne_iff_ne]
    rintro rfl
    exact not_contains_of_avoids h.keys hkeys (List.mem_map_of_mem he) hn CodeRange.contains_single

/-- **What a settled mapping gives for a character, it leaves alone.** -/
theorem SettledTable.mapChar_of_mem (h : SettledTable ranges expansions) {c d : Char}
    (hd : d ∈ mapChar ranges expansions c) : mapChar ranges expansions d = [d] := by
  cases hfind : ranges.find? (·.domain.contains c.toNat) with
  | some r =>
    have hcontains : r.domain.contains c.toNat := by simpa using List.find?_some hfind
    rw [mapChar, hfind, List.mem_singleton] at hd
    subst hd
    refine h.mapChar_image (List.mem_append_left _ ?_) (ShiftedRange.contains_images hcontains)
    exact List.mem_map_of_mem (List.mem_of_find?_eq_some hfind)
  | none =>
    cases hlookup : expansions.lookup c.toNat with
    | some ns =>
      simp only [mapChar, hfind, hlookup] at hd
      obtain ⟨m, hm, rfl⟩ := List.mem_map.mp hd
      obtain ⟨before, behind, hsplit, -⟩ := List.lookup_eq_some_iff.mp hlookup
      refine h.mapChar_image (List.mem_append_right _ ?_) CodeRange.contains_single
      exact List.mem_map_of_mem (List.mem_flatMap.mpr ⟨(c.toNat, ns), by simp [hsplit], hm⟩)
    | none =>
      have hself : mapChar ranges expansions c = [c] := by rw [mapChar, hfind, hlookup]
      rw [hself, List.mem_singleton] at hd
      rw [hd, hself]

end Tables

/-! ## Upper case -/

theorem settledTable_upper : SettledTable upperRanges upperExpansions where
  domains := by decide +kernel
  keys := by decide +kernel
  images := by decide +kernel

theorem upperChar_of_mem_upperChar {c d : Char} (h : d ∈ upperChar c) : upperChar d = [d] :=
  settledTable_upper.mapChar_of_mem h

/-- **Upper case is taken once.** -/
theorem upper_upper (s : String) : upper (upper s) = upper s := by
  have hchar : ∀ c, (upperChar c).flatMap upperChar = upperChar c := by
    intro c
    rw [List.flatMap_congr fun d hd => upperChar_of_mem_upperChar hd]
    exact List.flatMap_singleton' _
  unfold upper
  rw [String.toList_ofList, List.flatMap_assoc, funext hchar]

end Pushdown.Text
