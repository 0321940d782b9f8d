import Mathlib.Data.List.Basic
import Pushdown.Proofs.Json.Reading
import Pushdown.Proofs.Number.Numeral

/-!
# `Proofs.Json.Number` — a written integer is read back

A number has no closing mark, so what is read depends on what follows it. Behind a value of an array or an object
stands a comma or a bracket, behind a whole text nothing. In front of these the digits of an integer of 64 bits
are read as that integer, and never as a double.

## Contents

* `Delimited` — what may stand behind a value.
* `absorb_eq`, `foldl_toDigits` — digits as a number.
* `head_toDigits_ne` — a number other than zero has no leading zero.
* `Fits`, `intChars_cases` — a written integer of 64 bits, with and without a sign.
* `Reader.reads_integer` — an integer of a fixed width.
-/

namespace Pushdown.Json

/-- What may stand behind a value: a comma, a closing bracket, or nothing. -/
def Delimited : List Char → Prop
  | [] => True
  | c :: _ => c = ',' ∨ c = ']' ∨ c = '\x7d'

theorem delimited_nil : Delimited [] := trivial

theorem Delimited.cases {rest : List Char} (h : Delimited rest) :
    rest = [] ∨ ∃ c r, rest = c :: r ∧ (c = ',' ∨ c = ']' ∨ c = '\x7d') := by
  cases rest with
  | nil => exact .inl rfl
  | cons c r => exact .inr ⟨c, r, rfl, h⟩

/-! ## Digits -/

/-- More digits make no number smaller. -/
theorem le_foldl_digits (ds : List Nat) : ∀ s, s ≤ ds.foldl (fun m d => m * 10 + d) s := by
  induction ds with
  | nil => exact fun s => Nat.le_refl s
  | cons d ds ih =>
    intro s
    have hstep := ih (s * 10 + d)
    rw [List.foldl_cons]
    omega

/-- Digits whose number fits are all taken. -/
theorem absorb_eq (ds : List Nat) :
    ∀ {s}, ds.foldl (fun m d => m * 10 + d) s ≤ maxSignificand →
      absorb s ds = (ds.foldl (fun m d => m * 10 + d) s, ds.length) := by
  induction ds with
  | nil => exact fun _ => rfl
  | cons d ds ih =>
    intro s hs
    -- the number only grows, so it fits after the first digit too
    have hfirst : s * 10 + d ≤ maxSignificand := Nat.le_trans (le_foldl_digits ds _) hs
    rw [absorb, if_pos hfirst, ih hs]
    rfl

theorem foldl_toDigits (n : Nat) :
    ((Nat.toDigits 10 n).map digitValue).foldl (fun m d => m * 10 + d) 0 = n := by
  rw [List.foldl_map]
  exact decimalFrom_toDigits n

theorem all_isDigit_toDigits (n : Nat) : ∀ c ∈ Nat.toDigits 10 n, isDigit c = true := by
  have h := isDigits_toDigits n
  simp only [isDigits, Bool.and_eq_true, List.all_eq_true] at h
  exact h.2

/-- The first digit of a number other than zero is not zero. -/
theorem head_toDigits_ne (n : Nat) (h : 0 < n) : (Nat.toDigits 10 n).head? ≠ some '0' := by
  induction n using Nat.strongRecOn with
  | ind n ih =>
    by_cases hn : n < 10
    · have hdigit : ∀ m < 10, 0 < m → Nat.digitChar m ≠ '0' := by decide
      rw [Nat.toDigits_of_lt_base hn]
      simpa using hdigit n hn h
    · have hfront := ih (n / 10) (by omega) (by omega)
      rw [Nat.toDigits_of_base_le (by decide) (by omega),
        List.head?_append_of_ne_nil _ Nat.toDigits_ne_nil]
      exact hfront

/-- A number other than zero in digits. -/
theorem toDigits_cases (n : Nat) (h : 0 < n) :
    ∃ c cs, Nat.toDigits 10 n = c :: cs ∧ isDigit c = true ∧ c ≠ '0' := by
  have hhead := head_toDigits_ne n h
  have hdigit := all_isDigit_toDigits n
  cases hn : Nat.toDigits 10 n with
  | nil => exact absurd hn Nat.toDigits_ne_nil
  | cons c cs =>
    rw [hn] at hhead hdigit
    refine ⟨c, cs, rfl, hdigit c List.mem_cons_self, ?_⟩
    rintro rfl
    exact hhead rfl

theorem isJsonBlank_of_isDigit {c : Char} (h : isDigit c = true) : isJsonBlank c = false := by
  simp only [isJsonBlank, Bool.or_eq_false_iff, decide_eq_false_iff_not]
  exact ⟨⟨⟨ne_of_isDigit h rfl, ne_of_isDigit h rfl⟩, ne_of_isDigit h rfl⟩, ne_of_isDigit h rfl⟩

namespace Reader

variable {d : Nat} {rest : List Char}

theorem reads_digits {ds : List Char} (h : ∀ c ∈ ds, isDigit c = true) (hrest : Delimited rest) :
    Reads digits d (ds ++ rest) (ds.map digitValue) rest := by
  have hstop : rest.takeWhile isDigit = [] ∧ rest.dropWhile isDigit = rest := by
    obtain rfl | ⟨c, r, rfl, rfl | rfl | rfl⟩ := hrest.cases <;> exact ⟨rfl, rfl⟩
  intro p
  refine ⟨⟨p.line, p.column + ds.length⟩, ?_⟩
  simp only [digits, List.takeWhile_append_of_pos h, List.dropWhile_append_of_pos h, hstop, List.append_nil]

theorem reads_peeksDigit (hrest : Delimited rest) : Reads peeksDigit d rest false rest := by
  obtain rfl | ⟨c, r, rfl, rfl | rfl | rfl⟩ := hrest.cases <;> exact reads_head.bind reads_pure

theorem reads_peeksExponent (hrest : Delimited rest) : Reads peeksExponent d rest false rest := by
  obtain rfl | ⟨c, r, rfl, rfl | rfl | rfl⟩ := hrest.cases <;> exact reads_head.bind reads_pure

/-- No fraction and no exponent: the digits stand for an integer. -/
theorem reads_numberTail {negative : Bool} {n : Nat} {i : Int} (hrest : Delimited rest)
    (hn : negative = true → 0 < n ∧ n ≤ twoPow 63) (hi : i = if negative then -(n : Int) else n) :
    Reads (numberTail negative n 0) d rest (.integer i) rest := by
  refine reads_head.bind ?_
  split
  next hdot =>
    -- no delimiter is a point
    obtain rfl | ⟨c, r, rfl, rfl | rfl | rfl⟩ := hrest.cases <;> simp at hdot
  next =>
    refine (reads_peeksExponent hrest).bind ?_
    rw [if_neg Bool.false_ne_true, if_neg (Nat.lt_irrefl 0), hi]
    cases negative with
    | false => exact reads_pure
    | true =>
      rw [if_neg (by decide), if_pos (by simpa using hn rfl)]
      exact reads_pure

/-- The digits of an integer of 64 bits are read as that integer. -/
theorem reads_number {negative : Bool} {n : Nat} {i : Int} (hrest : Delimited rest) (hmax : n ≤ maxSignificand)
    (hn : negative = true → 0 < n ∧ n ≤ twoPow 63) (hi : i = if negative then -(n : Int) else n) :
    Reads (number negative) d (Nat.toDigits 10 n ++ rest) (.integer i) rest := by
  obtain rfl | hpos := Nat.eq_zero_or_pos n
  · rw [Nat.toDigits_zero]
    refine reads_peek.bind ?_
    dsimp only
    rw [if_pos rfl]
    refine reads_eat.bind ((reads_peeksDigit hrest).bind ?_)
    rw [if_neg Bool.false_ne_true]
    exact reads_numberTail hrest hn hi
  · obtain ⟨c, cs, hcs, hdigit, hzero⟩ := toDigits_cases n hpos
    have habsorb : absorb 0 ((Nat.toDigits 10 n).map digitValue) = (n, (Nat.toDigits 10 n).length) := by
      rw [absorb_eq _ (by rwa [foldl_toDigits]), foldl_toDigits, List.length_map]
    have hdigits := reads_digits (d := d) (all_isDigit_toDigits n) hrest
    rw [hcs] at hdigits habsorb ⊢
    refine reads_peek.bind ?_
    dsimp only
    rw [if_neg hzero, if_pos hdigit]
    refine hdigits.bind ?_
    rw [habsorb, List.length_map, Nat.sub_self]
    exact reads_numberTail hrest hn hi

end Reader

/-! ## Integers -/

/-- The integers that a number without fraction and exponent is read as. -/
def Fits (i : Int) : Prop := -(twoPow 63 : Int) ≤ i ∧ i ≤ maxSignificand

/-- A written integer of 64 bits, with and without a sign, and what is read behind the sign. -/
theorem intChars_cases {i : Int} {rest : List Char} (hi : Fits i) (hrest : Delimited rest) :
    (∃ cs, intChars i = '-' :: cs ∧
      ∀ {d}, Reader.Reads (Reader.number true) d (cs ++ rest) (.integer i) rest) ∨
    (∃ c cs, intChars i = c :: cs ∧ isDigit c = true ∧
      ∀ {d}, Reader.Reads (Reader.number false) d (c :: cs ++ rest) (.integer i) rest) := by
  have hmax : twoPow 63 ≤ maxSignificand := by decide
  obtain ⟨hleast, hgreatest⟩ := hi
  unfold intChars
  split
  next hneg =>
    have hvalue : i = if true then -(i.natAbs : Int) else i.natAbs := by
      rw [if_pos rfl]
      omega
    exact .inl ⟨_, rfl, Reader.reads_number hrest (by omega) (fun _ => by omega) hvalue⟩
  next hneg =>
    have hvalue : i = if false then -(i.natAbs : Int) else i.natAbs := by
      rw [if_neg Bool.false_ne_true]
      omega
    have hread : ∀ {d}, Reader.Reads (Reader.number false) d (Nat.toDigits 10 i.natAbs ++ rest) (.integer i)
        rest := Reader.reads_number hrest (by omega) (fun h => Bool.noConfusion h) hvalue
    have hdigit := all_isDigit_toDigits i.natAbs
    cases hcs : Nat.toDigits 10 i.natAbs with
    | nil => exact absurd hcs Nat.toDigits_ne_nil
    | cons c cs =>
      rw [hcs] at hdigit hread
      exact .inr ⟨c, cs, rfl, hdigit c List.mem_cons_self, hread⟩

namespace Reader

theorem Width.check_integer {w : Width} {i : Int} (hleast : w.least ≤ i) (hgreatest : i ≤ w.greatest) :
    w.check (.integer i) = .ok i := by
  simp [Width.check, hleast, hgreatest]

/-- An integer of a width is read with the check that it fits. -/
theorem reads_integer {w : Width} {i : Int} {d : Nat} {rest : List Char} (hi : Fits i)
    (hw : w.check (.integer i) = .ok i) (hrest : Delimited rest) :
    Reads (integer w) d (intChars i ++ rest) i rest := by
  have hcheck : Reads (placed (ofExcept (w.check (.integer i)))) d rest i rest := by
    rw [hw]
    exact reads_pure.placed
  obtain ⟨cs, hcs, hread⟩ | ⟨c, cs, hcs, hdigit, hread⟩ := intChars_cases hi hrest
  · rw [hcs]
    refine (reads_startValue rfl).bind ?_
    rw [if_pos rfl]
    exact reads_eat.bind (hread.bind hcheck)
  · rw [hcs]
    refine (reads_startValue (isJsonBlank_of_isDigit hdigit)).bind ?_
    rw [if_neg (ne_of_isDigit hdigit rfl), if_pos hdigit]
    exact hread.bind hcheck

end Reader

end Pushdown.Json
