import Mathlib.Algebra.Group.Nat.Defs
import Pushdown.Generation.Leaf

/-!
# `Proofs.Number.Numeral` — texts that are plain decimal numbers

A numeral is one or more digits, a fraction behind a dot if there is one, and an exponent behind a letter if there
is one. Numbers reach the generator as text or as doubles, and both are written as numerals, with at most one sign
in front: a text if its writer promised so, a double always.

## Contents

* `Numeral` — decimal numbers without a sign, in three parts.
* `isNumeral`, `isSignedNumeral` — the check, with and without a sign.
* `decimalFrom_toDigits`, `isDigits_take`, `isDigits_drop` — the digits of a number, whole and in parts.
* `decimal?_eq_some_iff` — the digit strings of a number: its digits behind some zeros.
* `numeral_positionalChars`, `numeral_scientificChars` — the two notations of a double.
-/

namespace Pushdown

/-- One or more digits. -/
def isDigits (cs : List Char) : Bool := !cs.isEmpty && cs.all isDigit

/-- A dot and digits, or nothing. -/
def isFraction : List Char → Bool
  | [] => true
  | '.' :: ds => isDigits ds
  | _ => false

/-- The text behind its sign, if it has one. -/
def unsigned : List Char → List Char
  | '+' :: cs => cs
  | '-' :: cs => cs
  | cs => cs

theorem unsigned_cases (cs : List Char) :
    (∃ sign, (sign = '+' ∨ sign = '-') ∧ cs = sign :: unsigned cs) ∨ cs = unsigned cs := by
  unfold unsigned
  split
  · exact .inl ⟨'+', .inl rfl, rfl⟩
  · exact .inl ⟨'-', .inr rfl, rfl⟩
  · exact .inr rfl

/-- A letter and digits that may have a sign, or nothing. -/
def isExponent : List Char → Bool
  | [] => true
  | c :: cs => (c = 'e' || c = 'E') && isDigits (unsigned cs)

/-- A decimal number without a sign. -/
inductive Numeral (cs : List Char) : Prop
  | mk (whole fraction exponent : List Char) (parts : cs = whole ++ fraction ++ exponent)
      (hwhole : isDigits whole) (hfraction : isFraction fraction) (hexponent : isExponent exponent)

/-- The text is a decimal number without a sign. -/
def isNumeral (cs : List Char) : Bool :=
  let rest := cs.dropWhile isDigit
  !(cs.takeWhile isDigit).isEmpty &&
    match rest with
    | '.' :: ds => !(ds.takeWhile isDigit).isEmpty && isExponent (ds.dropWhile isDigit)
    | _ => isExponent rest

/-- The text is a decimal number with at most one sign. -/
def isSignedNumeral (cs : List Char) : Bool := isNumeral (unsigned cs)

theorem ne_of_isDigit {c x : Char} (h : isDigit c = true) (hx : isDigit x = false) : c ≠ x := by
  rintro rfl
  exact Bool.noConfusion (h.symm.trans hx)

theorem isDigits_takeWhile {cs : List Char} (h : !(cs.takeWhile isDigit).isEmpty) :
    isDigits (cs.takeWhile isDigit) := by
  simp only [isDigits, h, Bool.true_and]
  exact List.all_takeWhile

/-- The check finds the three parts. -/
theorem numeral_of_isNumeral {cs : List Char} (h : isNumeral cs) : Numeral cs := by
  unfold isNumeral at h
  simp only [Bool.and_eq_true] at h
  obtain ⟨hwhole, hrest⟩ := h
  split at hrest
  next ds hdot =>
    simp only [Bool.and_eq_true] at hrest
    have hparts : cs = cs.takeWhile isDigit ++ '.' :: ds.takeWhile isDigit ++ ds.dropWhile isDigit := by
      rw [List.append_assoc, List.cons_append, List.takeWhile_append_dropWhile, ← hdot,
        List.takeWhile_append_dropWhile]
    exact .mk _ _ _ hparts (isDigits_takeWhile hwhole) (isDigits_takeWhile hrest.1) hrest.2
  next rest hno =>
    exact .mk _ [] _ (by simp) (isDigits_takeWhile hwhole) rfl hrest

/-! ## Doubles -/

/-- The digits of a number are digits, and there is at least one. -/
theorem isDigits_toDigits (n : Nat) : isDigits (Nat.toDigits 10 n) := by
  have hne : Nat.toDigits 10 n ≠ [] := by
    intro h
    have := Nat.length_toDigits_pos (b := 10) (n := n)
    simp [h] at this
  have hall : (Nat.toDigits 10 n).all isDigit := by
    rw [List.all_eq_true]
    intro c hc
    have hdigit := Nat.isDigit_of_mem_toDigits (by decide) (by decide) hc
    simp only [Char.isDigit, Bool.and_eq_true, decide_eq_true_eq] at hdigit
    simp only [isDigit, Bool.and_eq_true, decide_eq_true_eq]
    exact ⟨hdigit.1, hdigit.2⟩
  simp [isDigits, hall, hne]

theorem isDigits_take {ds : List Char} (h : isDigits ds) {n : Nat} (hn : 0 < n) : isDigits (ds.take n) := by
  simp only [isDigits, Bool.and_eq_true, List.all_eq_true] at h ⊢
  refine ⟨?_, fun c hc => h.2 c (List.mem_of_mem_take hc)⟩
  simp only [Bool.not_eq_true', List.isEmpty_eq_false_iff] at h ⊢
  rw [Ne, List.take_eq_nil_iff]
  rintro (hzero | hnil)
  · omega
  · exact h.1 hnil

theorem isDigits_drop {ds : List Char} (h : isDigits ds) {n : Nat} (hn : n < ds.length) : isDigits (ds.drop n) := by
  simp only [isDigits, Bool.and_eq_true, List.all_eq_true] at h ⊢
  refine ⟨?_, fun c hc => h.2 c (List.mem_of_mem_drop hc)⟩
  simp only [Bool.not_eq_true', List.isEmpty_eq_false_iff]
  rw [Ne, List.drop_eq_nil_iff]
  omega

/-- Zeros on either side of digits are digits. -/
theorem isDigits_append_zeros {ds : List Char} (h : isDigits ds) (n : Nat) :
    isDigits (ds ++ zeros n) ∧ isDigits (zeros n ++ ds) := by
  have hzeros : (zeros n).all isDigit := by simp [zeros, isDigit]
  simp only [isDigits, Bool.and_eq_true] at h
  cases ds with
  | nil => simp at h
  | cons d ds => simp_all [isDigits]

theorem decimalFrom_append (n : Nat) (cs ds : List Char) :
    decimalFrom n (cs ++ ds) = decimalFrom (decimalFrom n cs) ds := List.foldl_append

/-- Each zero that is read multiplies by ten. -/
theorem decimalFrom_zeros (k : Nat) : ∀ n, decimalFrom n (zeros k) = n * 10 ^ k := by
  induction k with
  | zero => exact fun n => (Nat.mul_one n).symm
  | succ k ih =>
    intro n
    show decimalFrom (n * 10 + 0) (zeros k) = _
    rw [ih, Nat.add_zero, Nat.pow_succ, Nat.mul_assoc, Nat.mul_comm 10]

theorem decimalFrom_eq_ofDigitChars (n : Nat) (cs : List Char) : decimalFrom n cs = Nat.ofDigitChars 10 cs n := by
  have hstep : (fun m c => m * 10 + digitValue c) = fun m c => 10 * m + (c.toNat - '0'.toNat) := by
    funext m c
    rw [Nat.mul_comm]
    rfl
  rw [decimalFrom, hstep, ← Nat.ofDigitChars_eq_foldl]

theorem decimalFrom_toDigits (n : Nat) : decimalFrom 0 (Nat.toDigits 10 n) = n := by
  rw [decimalFrom_eq_ofDigitChars, Nat.ofDigitChars_ten_toDigits]

theorem digitValue_lt {c : Char} (h : isDigit c) : digitValue c < 10 := by
  simp only [isDigit, Bool.and_eq_true, decide_eq_true_eq] at h
  rw [digitValue]
  omega

theorem digitChar_digitValue {c : Char} (h : isDigit c) : Nat.digitChar (digitValue c) = c := by
  apply Char.toNat_inj.mp
  rw [Nat.toNat_digitChar_of_lt_ten (digitValue_lt h), digitValue]
  simp only [isDigit, Bool.and_eq_true, decide_eq_true_eq] at h
  omega

theorem toDigits_digitValue {c : Char} (h : isDigit c) : Nat.toDigits 10 (digitValue c) = [c] := by
  rw [Nat.toDigits_of_lt_base (digitValue_lt h), digitChar_digitValue h]

/-- Behind a number other than zero every digit is one more digit of the number. -/
theorem toDigits_append_of_pos (ds : List Char) (h : ∀ c ∈ ds, isDigit c) :
    ∀ n, 0 < n → Nat.toDigits 10 n ++ ds = Nat.toDigits 10 (decimalFrom n ds) := by
  induction ds with
  | nil => exact fun n _ => List.append_nil _
  | cons c ds ih =>
    intro n hn
    have hc := h c List.mem_cons_self
    have hstep := Nat.toDigits_append_toDigits (b := 10) (by decide) hn (digitValue_lt hc)
    rw [toDigits_digitValue hc, Nat.mul_comm] at hstep
    have hmore := ih (fun x hx => h x (List.mem_cons_of_mem c hx)) (n * 10 + digitValue c) (by omega)
    rw [← List.singleton_append, ← List.append_assoc, hstep, hmore]
    rfl

/-- One or more digits are zeros and the digits of their number. -/
theorem eq_zeros_append_toDigits (ds : List Char) (hne : ds ≠ []) (hdigit : ∀ c ∈ ds, isDigit c) :
    ∃ k, ds = zeros k ++ Nat.toDigits 10 (decimalFrom 0 ds) := by
  induction ds with
  | nil => exact absurd rfl hne
  | cons c ds ih =>
    have hc := hdigit c List.mem_cons_self
    have hrest : ∀ x ∈ ds, isDigit x := fun x hx => hdigit x (List.mem_cons_of_mem c hx)
    have hfirst : decimalFrom 0 (c :: ds) = decimalFrom (digitValue c) ds := by
      show decimalFrom (0 * 10 + digitValue c) ds = _
      rw [Nat.zero_mul, Nat.zero_add]
    rw [hfirst]
    by_cases hzero : digitValue c = 0
    · -- one more zero in front, unless it is the last digit
      have hchar : c = '0' := by rw [← digitChar_digitValue hc, hzero]; rfl
      rw [hzero, hchar]
      by_cases hnil : ds = []
      · exact ⟨0, by rw [hnil]; rfl⟩
      · obtain ⟨k, hk⟩ := ih hnil hrest
        exact ⟨k + 1, congrArg ('0' :: ·) hk⟩
    · refine ⟨0, ?_⟩
      have hmore := toDigits_append_of_pos ds hrest (digitValue c) (Nat.pos_of_ne_zero hzero)
      rw [toDigits_digitValue hc] at hmore
      exact hmore

/-- Digits stand for a number if and only if they are its own digits behind some zeros. -/
theorem decimal?_eq_some_iff {cs : List Char} {n : Nat} :
    decimal? cs = some n ↔ ∃ k, cs = zeros k ++ Nat.toDigits 10 n := by
  show (if isDigits cs then some (decimalFrom 0 cs) else none) = some n ↔ _
  constructor
  · intro h
    split at h
    next hdigits =>
      simp only [isDigits, Bool.and_eq_true, Bool.not_eq_true', List.isEmpty_eq_false_iff, List.all_eq_true] at hdigits
      obtain ⟨k, hk⟩ := eq_zeros_append_toDigits cs hdigits.1 hdigits.2
      rw [Option.some.inj h] at hk
      exact ⟨k, hk⟩
    next => cases h
  · rintro ⟨k, rfl⟩
    rw [if_pos (isDigits_append_zeros (isDigits_toDigits n) k).2, decimalFrom_append, decimalFrom_zeros, Nat.zero_mul,
      decimalFrom_toDigits]

/-- A digit is no sign. -/
theorem unsigned_of_isDigits {ds : List Char} (h : isDigits ds) (cs : List Char) :
    unsigned (ds ++ cs) = ds ++ cs := by
  cases ds with
  | nil => simp [isDigits] at h
  | cons d ds =>
    simp only [isDigits, List.all_cons, Bool.and_eq_true] at h
    have hplus : d ≠ '+' := ne_of_isDigit h.2.1 rfl
    have hminus : d ≠ '-' := ne_of_isDigit h.2.1 rfl
    simp [unsigned, hplus, hminus]

theorem unsigned_of_numeral {cs : List Char} (h : Numeral cs) : unsigned cs = cs := by
  obtain ⟨whole, fraction, exponent, rfl, hwhole, -, -⟩ := h
  rw [List.append_assoc, unsigned_of_isDigits hwhole]

theorem isDigits_unsigned_intChars (i : Int) : isDigits (unsigned (intChars i)) := by
  have hdigits := isDigits_toDigits i.natAbs
  unfold intChars
  split
  · exact hdigits
  · rwa [← List.append_nil (Nat.toDigits 10 i.natAbs), unsigned_of_isDigits hdigits, List.append_nil]

/-- A decimal without an exponent is a numeral. The cases are those of the layout: zeros behind the digits, a point
among them, or zeros in front of them. -/
theorem numeral_positionalChars (d : Decimal) (keepsFraction : Bool) :
    Numeral (d.positionalChars keepsFraction) := by
  have hdigits := isDigits_toDigits d.digits
  unfold Decimal.positionalChars
  dsimp only
  split
  · have hfraction := (isDigits_append_zeros hdigits (-d.point).toNat).2
    exact .mk ['0'] _ [] (List.append_nil _).symm rfl hfraction rfl
  next hpoint =>
    split
    · have hwhole := (isDigits_append_zeros hdigits d.exponent.toNat).1
      cases keepsFraction with
      | false => exact .mk _ [] [] (by simp) hwhole rfl rfl
      | true => exact .mk _ ['.', '0'] [] (by simp) hwhole (by decide) rfl
    next hexponent =>
      -- the point stands behind the first digit and before the last
      have hlength : d.point = (Nat.toDigits 10 d.digits).length + d.exponent := rfl
      have hwhole := isDigits_take hdigits (show 0 < d.point.toNat by omega)
      have hfraction := isDigits_drop hdigits (show d.point.toNat < (Nat.toDigits 10 d.digits).length by omega)
      exact .mk _ ('.' :: _) [] (List.append_nil _).symm hwhole hfraction rfl

/-- A decimal with an exponent is a numeral: a digit, the others behind a point, and the exponent with its sign. -/
theorem numeral_scientificChars (d : Decimal) : Numeral (d.scientificChars false) := by
  have hdigits := isDigits_toDigits d.digits
  have hexponent : isExponent ('e' :: intChars (d.point - 1)) := by
    simpa [isExponent] using isDigits_unsigned_intChars (d.point - 1)
  unfold Decimal.scientificChars
  cases hd : Nat.toDigits 10 d.digits with
  | nil => simp [hd, isDigits] at hdigits
  | cons first rest =>
    simp only [hd, isDigits, List.all_cons, Bool.and_eq_true] at hdigits
    have hwhole : isDigits [first] := by simp [isDigits, hdigits.2.1]
    cases rest with
    | nil => exact .mk [first] [] _ (by simp) hwhole rfl hexponent
    | cons second rest =>
      have hfraction : isDigits (second :: rest) := by simp [isDigits, hdigits.2.2]
      exact .mk [first] ('.' :: second :: rest) _ (by simp) hwhole hfraction hexponent

/-- A finite double is written as a numeral, behind a minus sign if it is negative. -/
theorem chars_doubleStyle (x : Binary64) :
    ∃ cs, Numeral cs ∧ doubleStyle.chars x = if x.isNegative then '-' :: cs else cs := by
  refine ⟨_, ?_, apply_ite (· ++ _) _ _ _⟩
  split
  · exact numeral_positionalChars _ _
  · exact numeral_scientificChars _

end Pushdown
