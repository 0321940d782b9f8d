import Pushdown.Number.Shortest
import Pushdown.Proofs.Number.Rounding

/-!
# `Proofs.Number.Shortest` — the shortest digits round back to their number

The search for the shortest digits works on naturals over a common denominator. Here its interval is read as an interval
of rational numbers: its ends are the middles of the two gaps next to the number, so that what it covers rounds to the
number. The search looks at no more than seventeen grids. The finest of them always has a point inside: its step is at
most a `10 ^ 16`th of the number, the interval is wider than that since the significand has only 53 bits, and one of the
two grid points around the number then lies inside.

## Contents

* `Decimal.toRat` — the exact value of a decimal, kept by `stripZeros`.
* `Interval.Covers` — the rational numbers of an interval.
* `Interval.cast_low`, `Interval.cast_high` — its ends are the middles of the gaps.
* `Interval.covers_of_nearestOnGrid`, `Interval.nearestOnGrid_isSome` — what a grid gives, and when.
* `Interval.value_lt_width` — the interval is wider than the step of the finest grid.
* `rounds_shortest` — the shortest digits round back.
-/

namespace Pushdown

open Binary64 (weight significand exponent opensExponent)

/-! ## Fractions of naturals -/

/-- A number scaled by a power, in the numerator or the denominator by the sign of the exponent. -/
theorem cast_scaled {b : Nat} (hb : 0 < b) (n : Nat) (e : Int) {f : Nat × Nat}
    (hf : f = if 0 ≤ e then (n * b ^ e.toNat, 1) else (n, b ^ (-e).toNat)) :
    0 < f.2 ∧ (f.1 : ℚ) = n * b ^ e * f.2 := by
  have hpos : (0 : ℚ) < b := by exact_mod_cast hb
  subst hf
  split
  next he =>
    obtain ⟨k, rfl⟩ := Int.eq_ofNat_of_zero_le he
    exact ⟨Nat.one_pos, by simp⟩
  next he =>
    obtain ⟨k, hk⟩ := Int.eq_ofNat_of_zero_le (show 0 ≤ -e by omega)
    obtain rfl : e = -(k : Int) := by omega
    refine ⟨Nat.pow_pos hb, ?_⟩
    simp [hpos.ne']

theorem cast_scaleTwo (n : Nat) (e : Int) :
    0 < (scaleTwo n e).2 ∧ ((scaleTwo n e).1 : ℚ) = n * 2 ^ e * (scaleTwo n e).2 :=
  cast_scaled Nat.two_pos n e rfl

/-- A power of ten as a fraction of naturals, whatever the sign of its exponent. -/
theorem cast_powerOfTen (e : Int) :
    0 < (powerOfTen e).2 ∧ ((powerOfTen e).1 : ℚ) = 10 ^ e * (powerOfTen e).2 := by
  have hscaled : powerOfTen e = if 0 ≤ e then (1 * 10 ^ e.toNat, 1) else (1, 10 ^ (-e).toNat) := by
    rw [Nat.one_mul]
    rfl
  have h := cast_scaled (by decide) 1 e hscaled
  rwa [Nat.cast_one, one_mul] at h

/-- A natural has fewer digits than its bound by a power of ten says, and no fewer. -/
theorem lt_tenPow_digitCount (n : Nat) : n < 10 ^ digitCount n :=
  (Nat.length_toDigits_le_iff (by decide) Nat.length_toDigits_pos).mp (Nat.le_refl _)

/-- A number is at least the power of ten with as many digits. -/
theorem tenPow_digitCount_le {n : Nat} (hn : 0 < n) : 10 ^ (digitCount n - 1) ≤ n := by
  by_cases hone : digitCount n - 1 = 0
  · rw [hone]
    exact hn
  · rw [← Nat.not_lt, ← Nat.length_toDigits_le_iff (by decide) (Nat.pos_of_ne_zero hone)]
    show ¬ digitCount n ≤ digitCount n - 1
    omega

/-- The power of ten that the search starts from is not larger than the number. -/
theorem zpow_floorLogTen_le {num den : Nat} (hnum : 0 < num) (hden : 0 < den) :
    10 ^ floorLogTen num den * (den : ℚ) ≤ num := by
  unfold floorLogTen
  split
  next hle =>
    have hcount : 0 < digitCount (num / den) := Nat.length_toDigits_pos
    have hpow := tenPow_digitCount_le (Nat.div_pos hle hden)
    have hmul : 10 ^ (digitCount (num / den) - 1) * den ≤ num :=
      (Nat.mul_le_mul_right den hpow).trans (Nat.div_mul_le_self num den)
    rw [show (digitCount (num / den) : Int) - 1 = ((digitCount (num / den) - 1 : Nat) : Int) by omega, zpow_natCast]
    exact_mod_cast hmul
  next hlt =>
    -- the number of digits is that of the quotient rounded up, less one
    have hceil : den ≤ num * 10 ^ digitCount ((den + num - 1) / num - 1) := by
      have hcount := lt_tenPow_digitCount ((den + num - 1) / num - 1)
      have hup : den ≤ num * ((den + num - 1) / num) := by
        have hrest := Nat.div_add_mod (den + num - 1) num
        have hmod := Nat.mod_lt (den + num - 1) hnum
        omega
      exact hup.trans (Nat.mul_le_mul_left num (by omega))
    rw [zpow_neg, zpow_natCast, inv_mul_le_iff₀ (by positivity), mul_comm]
    exact_mod_cast hceil

/-! ## Decimals -/

namespace Decimal

/-- The exact value of a decimal. -/
def toRat (d : Decimal) : ℚ := d.digits * 10 ^ d.exponent

/-- Taking zeros from the end of the digits does not change the value. -/
theorem toRat_stripZeros (fuel : Nat) : ∀ d : Decimal, (d.stripZeros fuel).toRat = d.toRat := by
  induction fuel with
  | zero => exact fun _ => rfl
  | succ fuel ih =>
    intro d
    unfold stripZeros
    split
    next hzero =>
      have hmod : d.digits = 10 * (d.digits / 10) := by
        simp only [Bool.and_eq_true, beq_iff_eq] at hzero
        omega
      have hcast : (d.digits : ℚ) = 10 * (d.digits / 10 : Nat) := by exact_mod_cast hmod
      rw [ih]
      unfold toRat
      rw [hcast, zpow_add_one₀ (by norm_num)]
      ring
    · rfl

end Decimal

/-! ## Intervals -/

namespace Interval

/-- The rational number lies in the interval, whose ends belong to it if it is closed. -/
def Covers (i : Interval) (q : ℚ) : Prop :=
  if i.closed then i.low ≤ q * i.unit ∧ q * i.unit ≤ i.high else i.low < q * i.unit ∧ q * i.unit < i.high

theorem covers_of_lt {i : Interval} {q : ℚ} (hlow : i.low < q * i.unit) (hhigh : q * i.unit < i.high) : i.Covers q := by
  unfold Covers
  split
  · exact ⟨hlow.le, hhigh.le⟩
  · exact ⟨hlow, hhigh⟩

/-- The test of an interval is done in naturals, with both sides multiplied by the denominator; it says what it should
of the number itself. -/
theorem contains_iff (i : Interval) {num den : Nat} {q : ℚ} (hden : 0 < den) (hq : (num : ℚ) = q * den) :
    i.contains num den ↔ i.Covers q := by
  have hpos : (0 : ℚ) < den := by exact_mod_cast hden
  have hscale : ((num * i.unit : Nat) : ℚ) = q * i.unit * den := by
    push_cast
    rw [hq]
    ring
  unfold contains Covers
  split
  · simp only [Bool.and_eq_true, decide_eq_true_eq, ← Nat.cast_le (α := ℚ), hscale]
    push_cast
    rw [mul_le_mul_iff_left₀ hpos, mul_le_mul_iff_left₀ hpos]
  · simp only [Bool.and_eq_true, decide_eq_true_eq, ← Nat.cast_lt (α := ℚ), hscale]
    push_cast
    rw [mul_lt_mul_iff_left₀ hpos, mul_lt_mul_iff_left₀ hpos]

/-! ## The interval of a magnitude -/

theorem unit_ofMagnitude_pos (m : Nat) : 0 < (ofMagnitude m).unit := (cast_scaleTwo 1 (exponent m - 2)).1

/-- A quarter of the last place, over the denominator. -/
def quarter (m : Nat) : Nat := (scaleTwo 1 (exponent m - 2)).1

theorem cast_quarter (m : Nat) : 4 * (quarter m : ℚ) = 2 ^ exponent m * (ofMagnitude m).unit := by
  unfold quarter
  rw [(cast_scaleTwo 1 (exponent m - 2)).2, zpow_sub₀ two_ne_zero]
  show _ = 2 ^ exponent m * ((scaleTwo 1 (exponent m - 2)).2 : ℚ)
  push_cast
  ring

theorem quarter_pos (m : Nat) : 0 < quarter m := by
  have hunit : (0 : ℚ) < (ofMagnitude m).unit := by exact_mod_cast unit_ofMagnitude_pos m
  have hpos : (0 : ℚ) < 4 * quarter m := by
    rw [cast_quarter]
    positivity
  exact_mod_cast (pos_iff_pos_of_mul_pos hpos).mp (by norm_num)

/-- How many quarters of the last place the lower end lies below the number. -/
def below (m : Nat) : Nat := if opensExponent m then 1 else 2

theorem below_cases (m : Nat) : (opensExponent m ∧ below m = 1) ∨ (¬ opensExponent m ∧ below m = 2) := by
  unfold below
  split
  next h => exact .inl ⟨h, rfl⟩
  next h => exact .inr ⟨h, rfl⟩

/-! The number and the two ends, in quarters of the last place. -/

theorem value_eq (m : Nat) : (ofMagnitude m).value = 4 * significand m * quarter m := rfl

theorem high_eq (m : Nat) : (ofMagnitude m).high = (4 * significand m + 2) * quarter m := rfl

theorem low_add_eq {m : Nat} (hm : 0 < m) :
    (ofMagnitude m).low + below m * quarter m = 4 * significand m * quarter m := by
  show (4 * significand m - below m) * quarter m + below m * quarter m = _
  have hpos := Binary64.significand_pos hm
  have hbelow := below_cases m
  rw [← Nat.add_mul, Nat.sub_add_cancel (by omega)]

theorem cast_value (m : Nat) : ((ofMagnitude m).value : ℚ) = weight m * (ofMagnitude m).unit := by
  have hquarter := cast_quarter m
  rw [value_eq]
  unfold weight
  push_cast
  linear_combination (significand m : ℚ) * hquarter

/-- The upper end is the middle of the gap above. -/
theorem cast_high (m : Nat) :
    2 * ((ofMagnitude m).high : ℚ) = (weight m + weight (m + 1)) * (ofMagnitude m).unit := by
  have hquarter := cast_quarter m
  rw [high_eq, Binary64.weight_succ]
  unfold weight
  push_cast
  linear_combination (2 * (significand m : ℚ) + 1) * hquarter

/-- Half of the gap below a number, in quarters of the last place. -/
theorem cast_below (m : Nat) :
    2 * ((below (m + 1) * quarter (m + 1) : Nat) : ℚ) = 2 ^ exponent m * (ofMagnitude (m + 1)).unit := by
  have hquarter := cast_quarter (m + 1)
  rcases below_cases (m + 1) with ⟨hopens, hbelow⟩ | ⟨hopens, hbelow⟩
  · rw [(Binary64.next_of_opensExponent hopens).2, zpow_add_one₀ two_ne_zero] at hquarter
    rw [hbelow]
    push_cast
    linear_combination hquarter / 2
  · rw [(Binary64.next_of_not_opensExponent hopens).2] at hquarter
    rw [hbelow]
    push_cast
    linear_combination hquarter

/-- The lower end is the middle of the gap below. -/
theorem cast_low (m : Nat) :
    2 * ((ofMagnitude (m + 1)).low : ℚ) = (weight m + weight (m + 1)) * (ofMagnitude (m + 1)).unit := by
  have hlow : ((ofMagnitude (m + 1)).low : ℚ) + (below (m + 1) * quarter (m + 1) : Nat) =
      (ofMagnitude (m + 1)).value := by
    rw [value_eq]
    exact_mod_cast low_add_eq (Nat.succ_pos m)
  rw [cast_value] at hlow
  have hbelow := cast_below m
  have hweight := Binary64.weight_succ m
  linear_combination 2 * hlow - hbelow + (ofMagnitude (m + 1)).unit * hweight

/-- The ends belong to the interval of an even number. -/
theorem closed_ofMagnitude (m : Nat) : (ofMagnitude m).closed ↔ m % 2 = 0 := by
  show (significand m % 2 == 0) = true ↔ _
  rw [beq_iff_eq, Binary64.significand_eq]
  split <;> omega

/-- **What the interval of a magnitude covers lies between the middles of the gaps.** -/
theorem between_of_covers {m : Nat} {q : ℚ} (h : (ofMagnitude (m + 1)).Covers q) : Binary64.Between q (m + 1) := by
  have hunit : (0 : ℚ) < (ofMagnitude (m + 1)).unit := by exact_mod_cast unit_ofMagnitude_pos (m + 1)
  have hlow := cast_low m
  have hhigh := cast_high (m + 1)
  have hclosed := closed_ofMagnitude (m + 1)
  unfold Covers at h
  split at h
  next heven =>
    have habove : weight m + weight (m + 1) ≤ 2 * q := by
      refine le_of_mul_le_mul_right ?_ hunit
      linarith [h.1]
    have hbelow : 2 * q ≤ weight (m + 1) + weight (m + 1 + 1) := by
      refine le_of_mul_le_mul_right ?_ hunit
      linarith [h.2]
    exact ⟨habove, hbelow, fun hodd => absurd (hclosed.mp heven) hodd⟩
  next hodd =>
    have habove : weight m + weight (m + 1) < 2 * q := by
      refine lt_of_mul_lt_mul_right ?_ hunit.le
      linarith [h.1]
    have hbelow : 2 * q < weight (m + 1) + weight (m + 1 + 1) := by
      refine lt_of_mul_lt_mul_right ?_ hunit.le
      linarith [h.2]
    exact ⟨habove.le, hbelow.le, fun _ => ⟨habove, hbelow⟩⟩

/-! ## Grids -/

section Grid

variable {i : Interval} (e : Int)

/-- The grid point below the number. -/
def floorOnGrid (i : Interval) (e : Int) : Nat := i.value * (powerOfTen e).2 / (i.unit * (powerOfTen e).1)

/-- The number lies between two grid points. -/
theorem floorOnGrid_bounds (hunit : 0 < i.unit) :
    (⟨i.floorOnGrid e, e⟩ : Decimal).toRat * i.unit ≤ i.value ∧
      (i.value : ℚ) < (⟨i.floorOnGrid e + 1, e⟩ : Decimal).toRat * i.unit := by
  obtain ⟨hden, hnum⟩ := cast_powerOfTen e
  have hden' : (0 : ℚ) < (powerOfTen e).2 := by exact_mod_cast hden
  have hstep : 0 < i.unit * (powerOfTen e).1 := by
    have hpos : (0 : ℚ) < (powerOfTen e).1 := by
      rw [hnum]
      positivity
    exact Nat.mul_pos hunit (by exact_mod_cast hpos)
  have hle := Nat.div_mul_le_self (i.value * (powerOfTen e).2) (i.unit * (powerOfTen e).1)
  have hlt := Nat.lt_div_mul_add hstep (a := i.value * (powerOfTen e).2)
  rw [← @Nat.cast_le ℚ] at hle
  rw [← @Nat.cast_lt ℚ] at hlt
  push_cast [hnum] at hle hlt
  unfold Decimal.toRat floorOnGrid
  constructor
  · refine le_of_mul_le_mul_right ?_ hden'
    linarith
  · refine lt_of_mul_lt_mul_right ?_ hden'.le
    push_cast
    linarith

/-- The test of an interval, for a decimal with the given exponent. -/
theorem contains_grid_iff (n : Nat) :
    i.contains (n * (powerOfTen e).1) (powerOfTen e).2 ↔ i.Covers (⟨n, e⟩ : Decimal).toRat := by
  obtain ⟨hden, hnum⟩ := cast_powerOfTen e
  apply contains_iff i hden
  unfold Decimal.toRat
  push_cast [hnum]
  ring

/-- What a grid gives is covered. -/
theorem covers_of_nearestOnGrid {tie : TieRule} {d : Decimal} (h : i.nearestOnGrid tie e = some d) :
    i.Covers d.toRat := by
  unfold nearestOnGrid at h
  dsimp only at h
  split at h
  next hupper =>
    obtain rfl := Option.some.inj h
    rw [Bool.and_eq_true] at hupper
    exact (contains_grid_iff e _).mp hupper.1
  next =>
    split at h
    next hlower =>
      obtain rfl := Option.some.inj h
      exact (contains_grid_iff e _).mp hlower
    next => cases h

/-- A grid gives a point if one of the two next to the number is covered. -/
theorem nearestOnGrid_isSome (tie : TieRule)
    (h : i.Covers (⟨i.floorOnGrid e, e⟩ : Decimal).toRat ∨ i.Covers (⟨i.floorOnGrid e + 1, e⟩ : Decimal).toRat) :
    (i.nearestOnGrid tie e).isSome := by
  rw [← contains_grid_iff, ← contains_grid_iff] at h
  unfold floorOnGrid at h
  unfold nearestOnGrid
  dsimp only
  split
  · rfl
  next hupper =>
    split
    · rfl
    next hlower =>
      rcases h with h | h
      · exact absurd h hlower
      · simp [h, hlower] at hupper

/-- A grid that is finer than the interval is wide gives a point. -/
theorem nearestOnGrid_isSome_of_lt (tie : TieRule) (hunit : 0 < i.unit) (hlow : i.low < i.value)
    (hhigh : i.value < i.high) (hstep : 10 ^ e * (i.unit : ℚ) < i.high - i.low) : (i.nearestOnGrid tie e).isSome := by
  obtain ⟨hfloor, hnext⟩ := floorOnGrid_bounds e hunit
  rw [← @Nat.cast_lt ℚ] at hlow hhigh
  apply nearestOnGrid_isSome
  by_cases hinside : (i.low : ℚ) < (⟨i.floorOnGrid e, e⟩ : Decimal).toRat * i.unit
  · exact .inl (covers_of_lt hinside (hfloor.trans_lt hhigh))
  · -- the point above is one step higher, so that it does not reach the other end
    have hsucc : (⟨i.floorOnGrid e + 1, e⟩ : Decimal).toRat * i.unit =
        (⟨i.floorOnGrid e, e⟩ : Decimal).toRat * i.unit + 10 ^ e * i.unit := by
      unfold Decimal.toRat
      push_cast
      ring
    refine .inr (covers_of_lt (hlow.trans hnext) ?_)
    rw [hsucc]
    linarith [not_lt.mp hinside]

end Grid

/-! ## Seventeen digits suffice -/

/-- The interval is wider than the number divided by `10 ^ 16`: it is three or four quarters of the last place wide, and
the number is four times its significand of them. -/
theorem value_lt_width {m : Nat} (hm : 0 < m) :
    (ofMagnitude m).value + 10 ^ 16 * (ofMagnitude m).low < 10 ^ 16 * (ofMagnitude m).high := by
  have hlow := low_add_eq hm
  have hquarters : 4 * significand m < 10 ^ 16 * (2 + below m) := by
    rcases below_cases m with ⟨hopens, hbelow⟩ | ⟨-, hbelow⟩
    · have hfirst := ((Binary64.opensExponent_iff m).mp hopens).1
      rw [hbelow, Binary64.significand_eq]
      split <;> omega
    · have hbits := Binary64.significand_lt m
      omega
  have hwidth := Nat.mul_lt_mul_of_pos_right hquarters (quarter_pos m)
  rw [value_eq, high_eq]
  linarith

theorem low_lt_value {m : Nat} (hm : 0 < m) : (ofMagnitude m).low < (ofMagnitude m).value := by
  have hlow := low_add_eq hm
  have hbelow : 0 < below m * quarter m :=
    Nat.mul_pos (by rcases below_cases m with ⟨-, h⟩ | ⟨-, h⟩ <;> omega) (quarter_pos m)
  rw [value_eq]
  omega

theorem value_lt_high (m : Nat) : (ofMagnitude m).value < (ofMagnitude m).high := by
  rw [value_eq, high_eq]
  exact Nat.mul_lt_mul_of_pos_right (by omega) (quarter_pos m)

/-- The last grid of the search gives a point. -/
theorem nearestOnGrid_last {m : Nat} (hm : 0 < m) (tie : TieRule) :
    ((ofMagnitude m).nearestOnGrid tie
      (floorLogTen (ofMagnitude m).value (ofMagnitude m).unit - (16 : Nat))).isSome := by
  have hunit := unit_ofMagnitude_pos m
  have hlow := low_lt_value hm
  have htop := zpow_floorLogTen_le (Nat.zero_lt_of_lt hlow) hunit
  have hwidth := value_lt_width hm
  refine nearestOnGrid_isSome_of_lt _ tie hunit hlow (value_lt_high m) ?_
  rw [← @Nat.cast_lt ℚ] at hwidth
  push_cast at hwidth
  rw [zpow_sub₀ (by norm_num), zpow_natCast]
  linarith

end Interval

/-- The shortest digits are covered by the interval of their number. -/
theorem covers_shortest (tie : TieRule) {m : Nat} (hm : 0 < m) :
    (Interval.ofMagnitude m).Covers (shortest tie m).toRat := by
  unfold shortest
  rw [if_neg (Nat.ne_of_gt hm)]
  dsimp only
  rw [Decimal.toRat_stripZeros]
  generalize htop : floorLogTen _ _ = top
  have hlast : ((List.range 17).findSome? fun n : Nat =>
      (Interval.ofMagnitude m).nearestOnGrid tie (top - n)).isSome := by
    rw [List.findSome?_isSome_iff]
    exact ⟨16, by decide, htop ▸ Interval.nearestOnGrid_last hm tie⟩
  obtain ⟨d, hd⟩ := Option.isSome_iff_exists.mp hlast
  obtain ⟨n, -, hn⟩ := List.exists_of_findSome?_eq_some hd
  rw [hd]
  exact Interval.covers_of_nearestOnGrid _ hn

theorem shortest_zero (tie : TieRule) : (shortest tie 0).toRat = 0 := by
  unfold shortest
  rw [if_pos rfl]
  exact zero_mul _

/-- **The shortest digits round back**, behind the sign of the number. -/
theorem rounds_shortest (tie : TieRule) (x : Binary64) :
    Binary64.Rounds
      (if x.isNegative then -(shortest tie x.magnitude).toRat else (shortest tie x.magnitude).toRat) x := by
  cases hm : x.magnitude with
  | zero =>
    rw [shortest_zero, neg_zero, ite_self, ← Binary64.toRat_of_magnitude_eq_zero hm]
    exact Binary64.rounds_toRat x
  | succ m =>
    have hcovers := covers_shortest tie (Nat.succ_pos m)
    rw [← hm]
    apply Binary64.rounds_of_between
    · rw [hm]
      exact Nat.succ_pos m
    · rw [hm]
      exact Interval.between_of_covers hcovers

end Pushdown
