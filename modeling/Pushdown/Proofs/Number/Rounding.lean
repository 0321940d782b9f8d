import Mathlib.Algebra.Order.Field.Power
import Mathlib.Algebra.Order.Field.Rat
import Mathlib.Tactic.Linarith
import Mathlib.Tactic.LinearCombination
import Mathlib.Tactic.Positivity
import Mathlib.Tactic.Ring
import Pushdown.Number.Binary64

/-!
# `Proofs.Number.Rounding` — the double that a rational number rounds to

Rounding is stated without an algorithm: a rational number rounds to the double that no other double is nearer to, and
of two doubles that are equally near to the one whose last bit is zero. The doubles are laid out along their magnitude
bits: from each number to the next the value grows by one unit of the last place, and the bits of infinity continue
this row, so that they stand for the first number that is too large. So a number rounds to a double as soon as it lies
between the middles of the two gaps next to it. It rounds to no other one, since two even doubles that are equally near
have a nearer one between them.

## Contents

* `Binary64.weight`, `Binary64.toRat` — the exact value of magnitude bits and of a double.
* `Binary64.Rounds` — a rational number rounds to a double.
* `Binary64.weight_succ` — the next number of the row.
* `Binary64.rounds_of_between` — what lies between the middles of the gaps rounds to the double.
* `Binary64.toRat_eq_iff` — doubles of one value are the same up to the sign of zero.
* `Binary64.Rounds.iff_toRat_eq` — a number rounds to the doubles of one value only.
-/

namespace Pushdown.Binary64

/-! ## Exact values -/

/-- The exact value of magnitude bits. The bits of infinity continue the row of the finite ones. -/
def weight (m : Nat) : ℚ := significand m * 2 ^ exponent m

/-- The exact value of a double. -/
def toRat (x : Binary64) : ℚ := if x.isNegative then -weight x.magnitude else weight x.magnitude

/-- The number rounds to `x`: every other double is farther away, or as far and `x` is even. Doubles of the same value,
which are the two zeros, are not told apart. -/
def Rounds (q : ℚ) (x : Binary64) : Prop :=
  ∀ y : Binary64, ¬ y.isNaN → y.toRat = x.toRat ∨ |q - x.toRat| < |q - y.toRat| ∨
    (|q - x.toRat| = |q - y.toRat| ∧ x.magnitude % 2 = 0)

theorem twoPow_52 : twoPow 52 = 4503599627370496 := rfl

/-- Below the first normal number the bits are the significand; from there on it has one bit more. -/
theorem significand_eq (m : Nat) :
    significand m = if m < 4503599627370496 then m else 4503599627370496 + m % 4503599627370496 := by
  unfold significand biased
  rw [twoPow_52]
  split
  · rw [if_pos (by omega)]
  · rw [if_neg (by omega)]

/-- The exponent of a magnitude, with its two bounds written out. -/
theorem exponent_eq (m : Nat) :
    exponent m = if m < 4503599627370496 then -1074 else ((m / 4503599627370496 : Nat) : Int) - 1075 := by
  unfold exponent biased
  rw [twoPow_52]
  split
  · rw [if_pos (by omega)]
  · rw [if_neg (by omega)]

theorem significand_pos {m : Nat} (hm : 0 < m) : 0 < significand m := by
  rw [significand_eq]
  split <;> omega

/-- A significand has 53 bits. -/
theorem significand_lt (m : Nat) : significand m < 9007199254740992 := by
  rw [significand_eq]
  split <;> omega

/-- The number is the first with its exponent, and there are numbers with the exponent below. The gap below it is half
as wide as the gap above. -/
def opensExponent (m : Nat) : Bool := m % twoPow 52 = 0 && 1 < biased m

theorem opensExponent_iff (m : Nat) :
    opensExponent m ↔ m % 4503599627370496 = 0 ∧ 1 < m / 4503599627370496 := by
  unfold opensExponent biased
  rw [twoPow_52]
  simp

/-- Within an exponent the significand counts on. -/
theorem next_of_not_opensExponent {m : Nat} (h : ¬ opensExponent (m + 1)) :
    significand (m + 1) = significand m + 1 ∧ exponent (m + 1) = exponent m := by
  rw [opensExponent_iff] at h
  rw [significand_eq, significand_eq, exponent_eq, exponent_eq]
  constructor
  · split <;> split <;> omega
  · split <;> split <;> omega

/-- Where a new exponent begins, the significand starts again at half of what it would be. -/
theorem next_of_opensExponent {m : Nat} (h : opensExponent (m + 1)) :
    2 * significand (m + 1) = significand m + 1 ∧ exponent (m + 1) = exponent m + 1 := by
  rw [opensExponent_iff] at h
  rw [significand_eq, significand_eq, exponent_eq, exponent_eq]
  constructor
  · split <;> split <;> omega
  · split <;> split <;> omega

/-- The next number is one unit of the last place away, also where the exponent changes. -/
theorem weight_succ (m : Nat) : weight (m + 1) = weight m + 2 ^ exponent m := by
  unfold weight
  by_cases hopens : opensExponent (m + 1)
  · obtain ⟨hsignificand, hexponent⟩ := next_of_opensExponent hopens
    have hcast : 2 * (significand (m + 1) : ℚ) = significand m + 1 := by exact_mod_cast hsignificand
    rw [hexponent, zpow_add_one₀ two_ne_zero]
    linear_combination 2 ^ exponent m * hcast
  · obtain ⟨hsignificand, hexponent⟩ := next_of_not_opensExponent hopens
    rw [hexponent, hsignificand]
    push_cast
    ring

theorem weight_zero : weight 0 = 0 := by
  unfold weight
  rw [significand_eq, if_pos (by decide)]
  simp

theorem weight_nonneg (m : Nat) : 0 ≤ weight m := by
  unfold weight
  positivity

theorem strictMono_weight : StrictMono weight := by
  apply strictMono_nat_of_lt_succ
  intro m
  rw [weight_succ]
  have hunit : (0 : ℚ) < 2 ^ exponent m := by positivity
  linarith

theorem weight_pos {m : Nat} (hm : 0 < m) : 0 < weight m := by
  rw [← weight_zero]
  exact strictMono_weight hm

/-! ## Rounding -/

/-- The number lies between the middles of the gaps next to `m`; the middles themselves count if `m` is even. -/
structure Between (q : ℚ) (m : Nat) : Prop where
  above : weight (m - 1) + weight m ≤ 2 * q
  below : 2 * q ≤ weight m + weight (m + 1)
  inside : m % 2 ≠ 0 → weight (m - 1) + weight m < 2 * q ∧ 2 * q < weight m + weight (m + 1)

section Between

variable {q : ℚ} {m : Nat}

/-- No other number of the row is nearer, and none is as near unless `m` is even. -/
theorem Between.nearest (h : Between q m) {m' : Nat} (hne : m' ≠ m) :
    |q - weight m| ≤ |q - weight m'| ∧ (m % 2 ≠ 0 → |q - weight m| < |q - weight m'|) := by
  have habove := h.above
  have hbelow := h.below
  rcases Nat.lt_or_gt_of_ne hne with hless | hgreater
  · -- the gap below lies between the two numbers
    have hgap : weight m' ≤ weight (m - 1) := strictMono_weight.monotone (by omega)
    have hfirst : weight (m - 1) < weight m := strictMono_weight (by omega)
    have hfar : |q - weight m'| = q - weight m' := abs_of_nonneg (by linarith)
    rw [hfar]
    refine ⟨abs_le.mpr ⟨by linarith, by linarith⟩, ?_⟩
    intro hodd
    have hinside := (h.inside hodd).1
    exact abs_lt.mpr ⟨by linarith, by linarith⟩
  · have hgap : weight (m + 1) ≤ weight m' := strictMono_weight.monotone hgreater
    have hfirst : weight m < weight (m + 1) := strictMono_weight (Nat.lt_succ_self m)
    have hfar : |q - weight m'| = weight m' - q := by
      rw [abs_sub_comm]
      exact abs_of_nonneg (by linarith)
    rw [hfar]
    refine ⟨abs_le.mpr ⟨by linarith, by linarith⟩, ?_⟩
    intro hodd
    have hinside := (h.inside hodd).2
    exact abs_lt.mpr ⟨by linarith, by linarith⟩

theorem Between.pos (h : Between q m) (hm : 0 < m) : 0 < q := by
  have hfirst := weight_nonneg (m - 1)
  have hnext := weight_pos hm
  have habove := h.above
  linarith

/-- Numbers with the other sign are no nearer than zero. -/
theorem Between.nearest_signed (h : Between q m) (hm : 0 < m) {w : ℚ} {m' : Nat} (hw : w = weight m' ∨ w = -weight m')
    (hne : w ≠ weight m) :
    |q - weight m| < |q - w| ∨ (|q - weight m| = |q - w| ∧ m % 2 = 0) := by
  have hnearest : |q - weight m| ≤ |q - w| ∧ (m % 2 ≠ 0 → |q - weight m| < |q - w|) := by
    rcases hw with rfl | rfl
    · exact h.nearest fun hmm => hne (congrArg weight hmm)
    · have hzero := h.nearest (Nat.ne_of_lt hm)
      have hq := h.pos hm
      have hpos := weight_nonneg m'
      have hle : |q - weight 0| ≤ |q - -weight m'| := by
        rw [weight_zero, sub_zero, abs_of_pos hq, abs_of_nonneg (by linarith)]
        linarith
      exact ⟨hzero.1.trans hle, fun hodd => (hzero.2 hodd).trans_le hle⟩
  by_cases heven : m % 2 = 0
  · exact (lt_or_eq_of_le hnearest.1).imp_right fun heq => ⟨heq, heven⟩
  · exact .inl (hnearest.2 heven)

end Between

theorem toRat_cases (x : Binary64) : x.toRat = weight x.magnitude ∨ x.toRat = -weight x.magnitude := by
  unfold toRat
  split
  · exact .inr rfl
  · exact .inl rfl

theorem toRat_of_magnitude_eq_zero {x : Binary64} (h : x.magnitude = 0) : x.toRat = 0 := by
  unfold toRat
  rw [h, weight_zero, neg_zero, ite_self]

/-- **What lies between the middles of the gaps rounds to the double**, and so it does on the other side of zero. -/
theorem rounds_of_between {q : ℚ} {x : Binary64} (hx : 0 < x.magnitude) (h : Between q x.magnitude) :
    Rounds (if x.isNegative then -q else q) x := by
  intro y _
  by_cases hsame : y.toRat = x.toRat
  · exact .inl hsame
  · refine .inr ?_
    by_cases hnegative : x.isNegative
    · have hx' : x.toRat = -weight x.magnitude := if_pos hnegative
      have hdistance : ∀ w : ℚ, |-q - w| = |q - -w| := by
        intro w
        rw [← abs_neg]
        congr 1
        ring
      rw [if_pos hnegative, hdistance, hdistance, hx', neg_neg]
      rw [hx'] at hsame
      have hy : -y.toRat = weight y.magnitude ∨ -y.toRat = -weight y.magnitude :=
        (toRat_cases y).symm.imp neg_eq_iff_eq_neg.mpr (congrArg Neg.neg)
      exact h.nearest_signed hx hy fun hw => hsame (neg_eq_iff_eq_neg.mp hw)
    · have hx' : x.toRat = weight x.magnitude := if_neg hnegative
      rw [if_neg hnegative, hx']
      rw [hx'] at hsame
      exact h.nearest_signed hx (toRat_cases y) hsame

/-- A double rounds to itself. -/
theorem rounds_toRat (x : Binary64) : Rounds x.toRat x := by
  intro y _
  by_cases hsame : y.toRat = x.toRat
  · exact .inl hsame
  · refine .inr (.inl ?_)
    rw [sub_self, abs_zero]
    exact abs_pos.mpr (sub_ne_zero.mpr (Ne.symm hsame))

/-! ## A number rounds to one double only -/

theorem not_isNaN_of_isFinite {x : Binary64} (hx : x.isFinite) : ¬ x.isNaN := by
  unfold isFinite at hx
  unfold isNaN
  rw [decide_eq_true_eq] at hx ⊢
  omega

theorem abs_toRat (x : Binary64) : |x.toRat| = weight x.magnitude := by
  have hnonneg := weight_nonneg x.magnitude
  rcases toRat_cases x with h | h
  · rw [h, abs_of_nonneg hnonneg]
  · rw [h, abs_neg, abs_of_nonneg hnonneg]

theorem magnitude_eq_of_toRat_eq {x y : Binary64} (h : x.toRat = y.toRat) : x.magnitude = y.magnitude := by
  apply strictMono_weight.injective
  rw [← abs_toRat, h, abs_toRat]

/-- A double is its magnitude and its sign. -/
theorem eq_of_magnitude_eq {x y : Binary64} (hmagnitude : x.magnitude = y.magnitude)
    (hnegative : x.isNegative = y.isNegative) : x = y := by
  have hpow : twoPow 63 = 9223372036854775808 := rfl
  have hx := x.bits.toNat_lt
  have hy := y.bits.toNat_lt
  have hbits : x.bits.toNat = y.bits.toNat := by
    unfold magnitude at hmagnitude
    unfold isNegative at hnegative
    rw [hpow] at hmagnitude hnegative
    rw [Bool.eq_iff_iff, beq_iff_eq, beq_iff_eq] at hnegative
    omega
  cases x
  cases y
  exact congrArg mk (UInt64.toNat_inj.mp hbits)

theorem isNegative_iff_toRat_lt {x : Binary64} (hx : 0 < x.magnitude) : x.isNegative ↔ x.toRat < 0 := by
  have hpos := weight_pos hx
  unfold toRat
  split
  next hnegative => exact iff_of_true hnegative (neg_lt_zero.mpr hpos)
  next hnegative => exact iff_of_false hnegative hpos.not_gt

/-- Doubles of one value are the same up to the sign of zero. -/
theorem toRat_eq_iff {x y : Binary64} : y.toRat = x.toRat ↔ y = x ∨ (y.magnitude = 0 ∧ x.magnitude = 0) := by
  constructor
  · intro h
    have hmagnitude := magnitude_eq_of_toRat_eq h
    rcases Nat.eq_zero_or_pos x.magnitude with hzero | hpos
    · exact .inr ⟨hmagnitude.trans hzero, hzero⟩
    · refine .inl (eq_of_magnitude_eq hmagnitude ?_)
      rw [Bool.eq_iff_iff, isNegative_iff_toRat_lt (hmagnitude ▸ hpos), isNegative_iff_toRat_lt hpos, h]
  · rintro (rfl | ⟨hy, hx⟩)
    · rfl
    · rw [toRat_of_magnitude_eq_zero hy, toRat_of_magnitude_eq_zero hx]

theorem Rounds.of_toRat_eq {q : ℚ} {x y : Binary64} (h : Rounds q x) (hxy : y.toRat = x.toRat) : Rounds q y := by
  intro z hz
  rw [hxy, magnitude_eq_of_toRat_eq hxy]
  exact h z hz

/-- Sign and magnitude are put together from bits that do not overlap, so that both can be read back. -/
theorem magnitude_ofMagnitude (negative : Bool) {m : Nat} (hm : m < twoPow 63) :
    (ofMagnitude negative m).magnitude = m ∧ (ofMagnitude negative m).isNegative = negative := by
  have hpow : twoPow 63 = 9223372036854775808 := rfl
  unfold ofMagnitude magnitude isNegative
  rw [hpow] at hm ⊢
  cases negative with
  | false =>
    have hbits : (UInt64.ofNat (m + if false then 9223372036854775808 else 0)).toNat = m := by
      simp
      omega
    rw [hbits]
    exact ⟨by omega, by rw [beq_eq_false_iff_ne]; omega⟩
  | true =>
    have hbits : (UInt64.ofNat (m + if true then 9223372036854775808 else 0)).toNat = m + 9223372036854775808 := by
      simp
      omega
    rw [hbits]
    exact ⟨by omega, by rw [beq_iff_eq]; omega⟩

/-- Every number of the row up to the bits of infinity is the value of a double, with either sign. -/
theorem exists_toRat (negative : Bool) {m : Nat} (hm : m ≤ infinityBits) :
    ∃ z : Binary64, ¬ z.isNaN ∧ z.toRat = if negative then -weight m else weight m := by
  have hbits : infinityBits < twoPow 63 := by decide
  obtain ⟨hmagnitude, hnegative⟩ := magnitude_ofMagnitude negative (hm.trans_lt hbits)
  refine ⟨ofMagnitude negative m, ?_, ?_⟩
  · unfold isNaN
    rw [hmagnitude, decide_eq_true_eq]
    omega
  · unfold toRat
    rw [hmagnitude, hnegative]

/-- Between two even doubles there is another one. -/
theorem exists_toRat_between {x y : Binary64} (hx : ¬ x.isNaN) (hy : ¬ y.isNaN) (hxeven : x.magnitude % 2 = 0)
    (hyeven : y.magnitude % 2 = 0) (hlt : x.toRat < y.toRat) :
    ∃ z : Binary64, ¬ z.isNaN ∧ x.toRat < z.toRat ∧ z.toRat < y.toRat := by
  have hxabs := abs_toRat x
  have hyabs := abs_toRat y
  unfold isNaN at hx hy
  rw [decide_eq_true_eq, Nat.not_lt] at hx hy
  rcases lt_or_ge 0 y.toRat with hpos | hneg
  · -- the next number below `y`
    rw [abs_of_pos hpos] at hyabs
    have hm : 0 < y.magnitude := by
      rw [← strictMono_weight.lt_iff_lt, weight_zero, ← hyabs]
      exact hpos
    obtain ⟨z, hz, hvalue⟩ := exists_toRat false (m := y.magnitude - 1) (by omega)
    rw [if_neg Bool.false_ne_true] at hvalue
    refine ⟨z, hz, ?_, ?_⟩
    · rw [hvalue]
      rcases lt_or_ge 0 x.toRat with hxpos | hxneg
      · rw [abs_of_pos hxpos] at hxabs
        rw [hxabs, hyabs, strictMono_weight.lt_iff_lt] at hlt
        rw [hxabs, strictMono_weight.lt_iff_lt]
        omega
      · exact hxneg.trans_lt (weight_pos (by omega))
    · rw [hvalue, hyabs, strictMono_weight.lt_iff_lt]
      omega
  · -- the next number above `x`
    rw [abs_of_nonpos hneg, neg_eq_iff_eq_neg] at hyabs
    rw [abs_of_neg (hlt.trans_le hneg), neg_eq_iff_eq_neg] at hxabs
    rw [hxabs, hyabs, neg_lt_neg_iff, strictMono_weight.lt_iff_lt] at hlt
    obtain ⟨z, hz, hvalue⟩ := exists_toRat true (m := x.magnitude - 1) (by omega)
    rw [if_pos rfl] at hvalue
    refine ⟨z, hz, ?_, ?_⟩
    · rw [hvalue, hxabs, neg_lt_neg_iff, strictMono_weight.lt_iff_lt]
      omega
    · rw [hvalue, hyabs, neg_lt_neg_iff, strictMono_weight.lt_iff_lt]
      omega

/-- Two doubles that a number rounds to are equally near and even, so that the one between them would be nearer. -/
theorem Rounds.toRat_le {q : ℚ} {x y : Binary64} (hx : ¬ x.isNaN) (hy : ¬ y.isNaN) (hqx : Rounds q x)
    (hqy : Rounds q y) : y.toRat ≤ x.toRat := by
  by_contra hle
  have hlt := not_le.mp hle
  have htie : |q - x.toRat| = |q - y.toRat| ∧ x.magnitude % 2 = 0 ∧ y.magnitude % 2 = 0 := by
    rcases hqx y hy with h | h | ⟨h, hxeven⟩
    · exact absurd h hlt.ne'
    · rcases hqy x hx with h' | h' | h'
      · exact absurd h' hlt.ne
      · exact absurd h h'.not_gt
      · exact absurd h h'.1.symm.not_lt
    · rcases hqy x hx with h' | h' | ⟨-, hyeven⟩
      · exact absurd h' hlt.ne
      · exact absurd h h'.ne'
      · exact ⟨h, hxeven, hyeven⟩
  obtain ⟨hsame, hxeven, hyeven⟩ := htie
  obtain ⟨z, hz, hxz, hzy⟩ := exists_toRat_between hx hy hxeven hyeven hlt
  -- `q` is the middle of the two
  have hmiddle : q - x.toRat = y.toRat - q := by
    rcases abs_eq_abs.mp hsame with h | h
    · linarith
    · linarith
  have hnearer : |q - z.toRat| < |q - x.toRat| := by
    rw [abs_of_pos (show 0 < q - x.toRat by linarith)]
    exact abs_lt.mpr ⟨by linarith, by linarith⟩
  rcases hqx z hz with h | h | h
  · exact absurd h hxz.ne'
  · exact absurd hnearer h.not_gt
  · exact absurd h.1 hnearer.ne'

/-- **The doubles that a number rounds to are those of one value.** -/
theorem Rounds.iff_toRat_eq {q : ℚ} {x y : Binary64} (hx : ¬ x.isNaN) (hy : ¬ y.isNaN) (hqx : Rounds q x) :
    Rounds q y ↔ y.toRat = x.toRat := by
  constructor
  · intro hqy
    exact le_antisymm (hqx.toRat_le hx hy hqy) (hqy.toRat_le hy hx hqx)
  · exact fun h => hqx.of_toRat_eq h

end Pushdown.Binary64
