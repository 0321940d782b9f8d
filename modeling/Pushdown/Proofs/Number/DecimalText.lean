import Pushdown.Proofs.Number.Numeral
import Pushdown.Proofs.Number.Shortest

/-!
# `Proofs.Number.DecimalText` — the rational number that a decimal text stands for

A decimal text is given by its parts: a sign, digits, digits behind a dot, and digits behind the letter of an exponent.
The last two may be missing. The parts can be found again in the characters, so that a text of this form has one
reading, and with it one exact value. Both notations of a decimal are such texts, and both have the value of the
decimal.

## Contents

* `DecimalText` — the parts, their characters and their exact value.
* `DecimalText.chars_injective` — a text has one reading.
* `exists_positionalText`, `exists_scientificText` — the two notations of a decimal.
* `exists_decimalText` — a double as text.
-/

namespace Pushdown

/-- One or more digits. -/
def Digits : Type := { cs : List Char // isDigits cs }

/-- A decimal number as text, by its parts. -/
structure DecimalText where
  negative : Bool
  whole : Digits
  fraction : Option Digits
  /-- The sign and the digits behind the letter. -/
  exponent : Option (Bool × Digits)

namespace DecimalText

/-- A minus sign, or nothing. -/
def signChars (negative : Bool) : List Char := if negative then ['-'] else []

def fractionChars (t : DecimalText) : List Char := t.fraction.elim [] fun ds => '.' :: ds.1

def exponentChars (t : DecimalText) : List Char := t.exponent.elim [] fun e => 'e' :: (signChars e.1 ++ e.2.1)

/-- The text without its sign. -/
def unsignedChars (t : DecimalText) : List Char := t.whole.1 ++ (t.fractionChars ++ t.exponentChars)

/-- The text: `-?digits(.digits)?(e-?digits)?`. -/
def chars (t : DecimalText) : List Char := signChars t.negative ++ t.unsignedChars

/-- All digits before the exponent, without the dot. -/
def significantChars (t : DecimalText) : List Char := t.whole.1 ++ t.fraction.elim [] Subtype.val

/-- The number behind the letter. -/
def shift (t : DecimalText) : Int :=
  t.exponent.elim 0 fun e => if e.1 then -(decimalFrom 0 e.2.1 : Int) else decimalFrom 0 e.2.1

/-- How many digits stand behind the dot. -/
def places (t : DecimalText) : Nat := t.fraction.elim 0 fun ds => ds.1.length

/-- The exact value without the sign. -/
def magnitude (t : DecimalText) : ℚ := decimalFrom 0 t.significantChars * 10 ^ (t.shift - t.places)

/-- The exact rational number that the text stands for. -/
def value (t : DecimalText) : ℚ := if t.negative then -t.magnitude else t.magnitude

/-! ## One reading -/

/-- No digit stands in front. -/
def Stops (cs : List Char) : Prop := ∀ c ∈ cs.head?, isDigit c = false

/-- Digits end where no digit follows. -/
theorem append_inj_of_stops {ds ds' r r' : List Char} (hds : ds.all isDigit) (hds' : ds'.all isDigit) (hr : Stops r)
    (hr' : Stops r') (h : ds ++ r = ds' ++ r') : ds = ds' ∧ r = r' := by
  have htake : ∀ {ds r : List Char}, ds.all isDigit → Stops r → (ds ++ r).takeWhile isDigit = ds := by
    intro ds r hds hr
    rw [List.all_eq_true] at hds
    rw [List.takeWhile_append_of_pos hds]
    cases r with
    | nil => simp
    | cons c r => simp [hr c rfl]
  have hsame : ds = ds' := by rw [← htake hds hr, h, htake hds' hr']
  subst hsame
  exact ⟨rfl, List.append_cancel_left h⟩

theorem digits_append_inj {ds ds' : Digits} {r r' : List Char} (hr : Stops r) (hr' : Stops r')
    (h : ds.1 ++ r = ds'.1 ++ r') : ds = ds' ∧ r = r' := by
  have hall : ∀ ds : Digits, ds.1.all isDigit := fun ds => (Bool.and_eq_true_iff.mp ds.2).2
  obtain ⟨hsame, hrest⟩ := append_inj_of_stops (hall ds) (hall ds') hr hr' h
  exact ⟨Subtype.ext hsame, hrest⟩

/-- Digits do not begin with a minus. -/
theorem digits_ne_minus (ds : Digits) (r cs : List Char) : ds.1 ++ r ≠ '-' :: cs := by
  obtain ⟨ds, hds⟩ := ds
  cases ds with
  | nil => cases hds
  | cons d ds =>
    simp only [isDigits, List.all_cons, Bool.and_eq_true] at hds
    intro h
    exact ne_of_isDigit hds.2.1 rfl (List.cons.inj h).1

/-- A sign in front of digits is told from the digits. -/
theorem signChars_append_inj {b b' : Bool} {ds ds' : Digits} {r r' : List Char}
    (h : signChars b ++ (ds.1 ++ r) = signChars b' ++ (ds'.1 ++ r')) : b = b' ∧ ds.1 ++ r = ds'.1 ++ r' := by
  cases b with
  | false =>
    cases b' with
    | false => exact ⟨rfl, h⟩
    | true => exact absurd h (digits_ne_minus ds r _)
  | true =>
    cases b' with
    | false => exact absurd h.symm (digits_ne_minus ds' r' _)
    | true => exact ⟨rfl, (List.cons.inj h).2⟩

theorem stops_nil : Stops [] := by
  intro c hc
  cases hc

theorem stops_cons {c : Char} (hc : isDigit c = false) (cs : List Char) : Stops (c :: cs) := by
  intro c' hc'
  obtain rfl := Option.some.inj hc'
  exact hc

theorem stops_exponentChars (t : DecimalText) : Stops t.exponentChars := by
  unfold exponentChars
  cases t.exponent with
  | none => exact stops_nil
  | some e => exact stops_cons rfl _

theorem stops_fractionChars_append (t : DecimalText) : Stops (t.fractionChars ++ t.exponentChars) := by
  unfold fractionChars
  cases t.fraction with
  | none => exact stops_exponentChars t
  | some ds => exact stops_cons rfl _

/-- An exponent does not begin with a dot. -/
theorem exponentChars_ne_dot (t : DecimalText) (cs : List Char) : t.exponentChars ≠ '.' :: cs := by
  unfold exponentChars
  cases t.exponent with
  | none =>
    intro h
    cases h
  | some e =>
    intro h
    exact absurd (List.cons.inj h).1 (by decide)

/-- An exponent is told from its characters: its letter says that there is one, its sign is told from the digits, and
the digits end the text. -/
theorem exponent_eq_of_exponentChars_eq {t t' : DecimalText} (h : t.exponentChars = t'.exponentChars) :
    t.exponent = t'.exponent := by
  unfold exponentChars at h
  cases he : t.exponent with
  | none =>
    cases he' : t'.exponent with
    | none => rfl
    | some e' =>
      rw [he, he'] at h
      cases h
  | some e =>
    cases he' : t'.exponent with
    | none =>
      rw [he, he'] at h
      cases h
    | some e' =>
      rw [he, he'] at h
      have htail : signChars e.1 ++ (e.2.1 ++ []) = signChars e'.1 ++ (e'.2.1 ++ []) := by
        rw [List.append_nil, List.append_nil]
        exact (List.cons.inj h).2
      obtain ⟨hsign, hdigits⟩ := signChars_append_inj htail
      exact congrArg some (Prod.ext hsign (digits_append_inj stops_nil stops_nil hdigits).1)

/-- A fraction is told from its characters, whatever exponent follows: the dot says that there is one, and its digits
end where the exponent begins. -/
theorem fraction_eq_of_append_eq {t t' : DecimalText}
    (h : t.fractionChars ++ t.exponentChars = t'.fractionChars ++ t'.exponentChars) :
    t.fraction = t'.fraction ∧ t.exponentChars = t'.exponentChars := by
  unfold fractionChars at h
  cases hf : t.fraction with
  | none =>
    cases hf' : t'.fraction with
    | none =>
      rw [hf, hf'] at h
      exact ⟨rfl, h⟩
    | some ds' =>
      rw [hf, hf'] at h
      exact absurd h (exponentChars_ne_dot t _)
  | some ds =>
    cases hf' : t'.fraction with
    | none =>
      rw [hf, hf'] at h
      exact absurd h.symm (exponentChars_ne_dot t' _)
    | some ds' =>
      rw [hf, hf'] at h
      obtain ⟨hsame, hrest⟩ :=
        digits_append_inj (stops_exponentChars t) (stops_exponentChars t') (List.cons.inj h).2
      exact ⟨congrArg some hsame, hrest⟩

/-- **A decimal text has one reading.** -/
theorem chars_injective : Function.Injective chars := by
  intro t t' h
  obtain ⟨hnegative, hunsigned⟩ := signChars_append_inj h
  obtain ⟨hwhole, htail⟩ :=
    digits_append_inj (stops_fractionChars_append t) (stops_fractionChars_append t') hunsigned
  obtain ⟨hfraction, hexponentChars⟩ := fraction_eq_of_append_eq htail
  have hexponent := exponent_eq_of_exponentChars_eq hexponentChars
  cases t
  cases t'
  simp_all

end DecimalText

/-! ## The notations of a decimal -/

/-- The value of a text whose digits are those of a decimal, before and behind the point. -/
theorem DecimalText.magnitude_eq {t : DecimalText} {d : Decimal} {k : Nat}
    (hdigits : decimalFrom 0 t.significantChars = d.digits * 10 ^ k) (hshift : t.shift - t.places + k = d.exponent) :
    t.magnitude = d.toRat := by
  unfold magnitude Decimal.toRat
  rw [hdigits, ← hshift, zpow_add₀ (by norm_num), zpow_natCast]
  push_cast
  ring

/-- Without an exponent a decimal keeps a fraction. -/
theorem exists_positionalText (d : Decimal) :
    ∃ t : DecimalText, t.unsignedChars = d.positionalChars true ∧ t.fraction.isSome ∧ t.magnitude = d.toRat := by
  have hdigits := isDigits_toDigits d.digits
  have hvalue := decimalFrom_toDigits d.digits
  have hlength : d.point = (Nat.toDigits 10 d.digits).length + d.exponent := rfl
  unfold Decimal.positionalChars
  dsimp only
  split
  -- the point stands before all digits, and zeros fill the gap
  next hpoint =>
    have hfraction := (isDigits_append_zeros hdigits (-d.point).toNat).2
    refine ⟨⟨false, ⟨['0'], rfl⟩, some ⟨_, hfraction⟩, none⟩, ?_, rfl, DecimalText.magnitude_eq (k := 0) ?_ ?_⟩
    · exact congrArg _ (List.append_nil _)
    · show decimalFrom 0 (zeros (-d.point).toNat ++ Nat.toDigits 10 d.digits) = _
      rw [decimalFrom_append, decimalFrom_zeros, Nat.zero_mul, hvalue, Nat.pow_zero, Nat.mul_one]
    · show (0 : Int) - ((zeros (-d.point).toNat ++ Nat.toDigits 10 d.digits).length : Nat) + (0 : Nat) = _
      rw [List.length_append, zeros, List.length_replicate]
      omega
  next hpoint =>
    split
    -- it stands behind all digits, and a zero behind it makes the fraction
    next hexponent =>
      have hwhole := (isDigits_append_zeros hdigits d.exponent.toNat).1
      refine ⟨⟨false, ⟨_, hwhole⟩, some ⟨['0'], rfl⟩, none⟩, rfl, rfl,
        DecimalText.magnitude_eq (k := d.exponent.toNat + 1) ?_ ?_⟩
      · show decimalFrom 0 (Nat.toDigits 10 d.digits ++ zeros d.exponent.toNat ++ zeros 1) = _
        rw [decimalFrom_append, decimalFrom_append, decimalFrom_zeros, decimalFrom_zeros, hvalue, Nat.pow_add,
          Nat.mul_assoc]
      · show (0 : Int) - (1 : Nat) + (d.exponent.toNat + 1 : Nat) = _
        omega
    -- it stands between two digits
    next hexponent =>
      have hwhole := isDigits_take hdigits (show 0 < d.point.toNat by omega)
      have hfraction := isDigits_drop hdigits (show d.point.toNat < (Nat.toDigits 10 d.digits).length by omega)
      refine ⟨⟨false, ⟨_, hwhole⟩, some ⟨_, hfraction⟩, none⟩, ?_, rfl, DecimalText.magnitude_eq (k := 0) ?_ ?_⟩
      · exact congrArg _ (List.append_nil _)
      · show decimalFrom 0 ((Nat.toDigits 10 d.digits).take d.point.toNat ++
          (Nat.toDigits 10 d.digits).drop d.point.toNat) = _
        rw [List.take_append_drop, hvalue, Nat.pow_zero, Nat.mul_one]
      · show (0 : Int) - (((Nat.toDigits 10 d.digits).drop d.point.toNat).length : Nat) + (0 : Nat) = _
        rw [List.length_drop]
        omega

/-- An integer as the digits and the sign of an exponent. -/
theorem exists_exponent (i : Int) :
    ∃ e : Bool × Digits, DecimalText.signChars e.1 ++ e.2.1 = intChars i ∧
      (if e.1 then -(decimalFrom 0 e.2.1 : Int) else decimalFrom 0 e.2.1) = i := by
  have hvalue := decimalFrom_toDigits i.natAbs
  unfold intChars
  split
  next hneg =>
    refine ⟨⟨true, ⟨_, isDigits_toDigits i.natAbs⟩⟩, rfl, ?_⟩
    show -(decimalFrom 0 (Nat.toDigits 10 i.natAbs) : Int) = i
    omega
  next hpos =>
    refine ⟨⟨false, ⟨_, isDigits_toDigits i.natAbs⟩⟩, rfl, ?_⟩
    show (decimalFrom 0 (Nat.toDigits 10 i.natAbs) : Int) = i
    omega

/-- With one digit before the point a decimal has an exponent. -/
theorem exists_scientificText (d : Decimal) :
    ∃ t : DecimalText, t.unsignedChars = d.scientificChars false ∧ t.exponent.isSome ∧ t.magnitude = d.toRat := by
  have hdigits := isDigits_toDigits d.digits
  have hvalue := decimalFrom_toDigits d.digits
  have hlength : d.point = (Nat.toDigits 10 d.digits).length + d.exponent := rfl
  obtain ⟨e, hchars, hshift⟩ := exists_exponent (d.point - 1)
  unfold Decimal.scientificChars
  cases hd : Nat.toDigits 10 d.digits with
  | nil => exact absurd hd Nat.toDigits_ne_nil
  | cons first rest =>
    rw [hd] at hdigits hvalue hlength
    have hwhole := isDigits_take hdigits Nat.one_pos
    cases rest with
    -- a single digit has no fraction behind it
    | nil =>
      refine ⟨⟨false, ⟨[first], hwhole⟩, none, some e⟩, ?_, rfl, DecimalText.magnitude_eq (k := 0) ?_ ?_⟩
      · show first :: 'e' :: (DecimalText.signChars e.1 ++ e.2.1) = _
        rw [hchars]
        rfl
      · rw [Nat.pow_zero, Nat.mul_one]
        exact hvalue
      · show (if e.1 then -(decimalFrom 0 e.2.1 : Int) else decimalFrom 0 e.2.1) - (0 : Nat) + (0 : Nat) = _
        rw [hshift, hlength, List.length_singleton]
        omega
    | cons second rest =>
      have hfraction := isDigits_drop hdigits (show 1 < (first :: second :: rest).length by simp)
      refine ⟨⟨false, ⟨[first], hwhole⟩, some ⟨second :: rest, hfraction⟩, some e⟩, ?_, rfl,
        DecimalText.magnitude_eq (k := 0) ?_ ?_⟩
      · show first :: '.' :: second :: (rest ++ 'e' :: (DecimalText.signChars e.1 ++ e.2.1)) = _
        rw [hchars]
        simp
      · rw [Nat.pow_zero, Nat.mul_one]
        exact hvalue
      · show (if e.1 then -(decimalFrom 0 e.2.1 : Int) else decimalFrom 0 e.2.1) - ((second :: rest).length : Nat) +
          (0 : Nat) = _
        rw [hshift, hlength, List.length_cons, List.length_cons]
        omega

/-- **A double is written as a decimal text that is told from an integer**, with the value of its shortest digits. -/
theorem exists_decimalText (x : Binary64) :
    ∃ t : DecimalText, t.chars = doubleStyle.chars x ∧ t.negative = x.isNegative ∧
      (t.fraction.isSome ∨ t.exponent.isSome) ∧ t.magnitude = (shortest doubleStyle.tie x.magnitude).toRat := by
  generalize hd : shortest doubleStyle.tie x.magnitude = d
  have hunsigned : ∃ t : DecimalText,
      t.unsignedChars = (if doubleStyle.positional d.point then d.positionalChars true else d.scientificChars false) ∧
        (t.fraction.isSome ∨ t.exponent.isSome) ∧ t.magnitude = d.toRat := by
    split
    · obtain ⟨t, hchars, hfraction, hmagnitude⟩ := exists_positionalText d
      exact ⟨t, hchars, .inl hfraction, hmagnitude⟩
    · obtain ⟨t, hchars, hexponent, hmagnitude⟩ := exists_scientificText d
      exact ⟨t, hchars, .inr hexponent, hmagnitude⟩
  obtain ⟨t, hchars, hinexact, hmagnitude⟩ := hunsigned
  refine ⟨{ t with negative := x.isNegative }, ?_, rfl, hinexact, hmagnitude⟩
  unfold FloatStyle.chars
  rw [hd]
  exact congrArg (DecimalText.signChars x.isNegative ++ ·) hchars

end Pushdown
