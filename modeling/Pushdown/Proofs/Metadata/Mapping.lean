import Mathlib.Algebra.Order.Field.Power
import Mathlib.Algebra.Order.Field.Rat
import Mathlib.Tactic.Linarith
import Mathlib.Tactic.NormNum
import Mathlib.Tactic.Positivity
import Pushdown.Postgres.Discovery

/-!
# `Proofs.Metadata.Mapping` — the limits of mapped types, and the numbers that they hold

A remote catalogue reports sizes and scales as signed numbers, of which none is ruled out. The federation engine has
limits on both. Three conversions stand in between: to a character type, to an integer type and to an exact number.
Each is described here once, over the integers, and everything else follows from these descriptions.

An exact number loses no digit behind the point. In front of the point it may: a negative scale is taken for zero while
the precision stays, and then there is no room for the zeros that the remote type has in front of its point.

## Contents

* `word?_cases`, `varchar_cases`, `integer_cases`, `decimal_cases` — what the conversions do.
* `CanonicalType.WithinLimits` — the types that the federation engine can hold.
* `RemoteType.mapped_type_within_limits` — every mapped type is one of them.
* `IsDecimal` — the numbers of a decimal type.
* `forall_isDecimal_iff` — when one decimal type holds all numbers of another.
* `RemoteType.exact_type_holds_numbers_iff` — when a mapped type holds all numbers of the remote one.
-/

namespace Pushdown

/-! ## What the conversions do -/

/-- A number that is not negative keeps its value, and a negative one has none. -/
theorem word?_cases (n : Int32) :
    (∃ w, word? n = some w ∧ (w.toNat : ℤ) = n.toInt) ∨ (word? n = none ∧ n.toInt < 0) := by
  unfold word?
  by_cases hn : 0 ≤ n.toInt
  · refine .inl ⟨_, if_pos hn, ?_⟩
    have hlt : n.toInt.toNat < 2 ^ 32 := by
      have hbound := n.toInt_lt
      omega
    rw [UInt32.toNat_ofNat_of_lt' hlt]
    exact Int.toNat_of_nonneg hn
  · exact .inr ⟨if_neg hn, by omega⟩

/-- A length that is known and small enough is kept. -/
theorem varchar_cases (n : Int32) :
    (∃ w, CanonicalType.varchar n = .character w .utf8 ∧ (w.toNat : ℤ) = n.toInt ∧
      1 ≤ n.toInt ∧ n.toInt ≤ 2000000) ∨
    CanonicalType.varchar n = .maxCharacter .utf8 := by
  unfold CanonicalType.varchar
  rcases word?_cases n with ⟨w, hw, hvalue⟩ | ⟨hnone, -⟩
  · rw [hw]
    dsimp only
    by_cases hlimits : 1 ≤ w ∧ w ≤ maxLength
    · refine .inl ⟨w, if_pos hlimits, hvalue, ?_⟩
      simp only [maxLength, UInt32.le_iff_toNat_le, UInt32.reduceToNat] at hlimits
      omega
    · exact .inr (if_neg hlimits)
  · rw [hnone]
    exact .inr rfl

/-- A precision that is known and small enough is kept, in place of the one that is usual for the type. -/
theorem integer_cases (t : RemoteType) (usual : UInt32) :
    ∃ p, t.integer usual = .exactNumeric p 0 ∧
      (p = usual ∨ (p.toNat : ℤ) = t.size.toInt ∧ 1 ≤ t.size.toInt ∧ t.size.toInt ≤ 36) := by
  unfold RemoteType.integer
  rcases word?_cases t.size with ⟨w, hw, hvalue⟩ | ⟨hnone, -⟩
  · rw [hw]
    dsimp only
    by_cases hlimits : 1 ≤ w ∧ w ≤ maxPrecision
    · rw [if_pos hlimits]
      refine ⟨w, rfl, .inr ⟨hvalue, ?_⟩⟩
      simp only [maxPrecision, UInt32.le_iff_toNat_le, UInt32.reduceToNat] at hlimits
      omega
    · rw [if_neg hlimits]
      exact ⟨usual, rfl, .inl rfl⟩
  · rw [hnone]
    exact ⟨usual, rfl, .inl rfl⟩

/-- The reported precision and scale can be those of an exact number. -/
def RemoteType.HasExact (t : RemoteType) : Prop :=
  1 ≤ t.size.toInt ∧ t.size.toInt ≤ 36 ∧ t.scale.toInt ≤ t.size.toInt

/-- A scale that is negative is taken for zero. -/
theorem toNat_scale (t : RemoteType) : ((word? t.scale).getD 0).toNat = max t.scale.toInt 0 := by
  rcases word?_cases t.scale with ⟨w, hw, hvalue⟩ | ⟨hnone, hneg⟩
  · rw [hw, Option.getD_some, hvalue]
    omega
  · rw [hnone, Option.getD_none, UInt32.toNat_zero]
    omega

/-- An exact number keeps the precision, and the scale unless that is negative. -/
theorem decimal_cases (t : RemoteType) :
    (t.HasExact ∧ ∃ p s, t.decimal = .exactNumeric p s ∧ (p.toNat : ℤ) = t.size.toInt ∧
      (s.toNat : ℤ) = max t.scale.toInt 0) ∨
    (¬ t.HasExact ∧ t.decimal = .double) := by
  have hscale := toNat_scale t
  unfold RemoteType.decimal RemoteType.HasExact
  dsimp only
  rcases word?_cases t.size with ⟨w, hw, hvalue⟩ | ⟨hnone, hneg⟩
  · rw [hw]
    dsimp only
    generalize (word? t.scale).getD 0 = s at hscale ⊢
    have hiff : (1 ≤ w ∧ w ≤ maxPrecision ∧ s ≤ w) ↔
        1 ≤ t.size.toInt ∧ t.size.toInt ≤ 36 ∧ t.scale.toInt ≤ t.size.toInt := by
      simp only [maxPrecision, UInt32.le_iff_toNat_le, UInt32.reduceToNat]
      omega
    by_cases hexact : 1 ≤ w ∧ w ≤ maxPrecision ∧ s ≤ w
    · exact .inl ⟨hiff.mp hexact, w, s, if_pos hexact, hvalue, hscale⟩
    · exact .inr ⟨fun h => hexact (hiff.mpr h), if_neg hexact⟩
  · rw [hnone]
    exact .inr ⟨by omega, rfl⟩

/-! ## Limits -/

/-- The federation engine can hold the type. -/
def CanonicalType.WithinLimits : CanonicalType → Prop
  | .exactNumeric p s => 1 ≤ p.toNat ∧ p.toNat ≤ 36 ∧ s.toNat ≤ p.toNat
  | .character n c => 1 ≤ n.toNat ∧ n.toNat ≤ 2000000 ∧ c = .utf8
  | .maxCharacter c => c = .utf8
  | .boolean | .double | .date | .timestamp _ => True

theorem withinLimits_varchar (n : Int32) : (CanonicalType.varchar n).WithinLimits := by
  rcases varchar_cases n with ⟨w, hchar, hvalue, hlow, hhigh⟩ | hmax
  · rw [hchar]
    exact ⟨by omega, by omega, rfl⟩
  · rw [hmax]
    exact rfl

theorem withinLimits_integer (t : RemoteType) {usual : UInt32} (h : 1 ≤ usual.toNat ∧ usual.toNat ≤ 36) :
    (t.integer usual).WithinLimits := by
  obtain ⟨p, hinteger, rfl | ⟨hvalue, hlow, hhigh⟩⟩ := integer_cases t usual
  · rw [hinteger]
    exact ⟨h.1, h.2, Nat.zero_le _⟩
  · rw [hinteger]
    exact ⟨by omega, by omega, Nat.zero_le _⟩

theorem withinLimits_decimal (t : RemoteType) : t.decimal.WithinLimits := by
  rcases decimal_cases t with ⟨⟨hlow, hhigh, hscale⟩, p, s, hdecimal, hp, hs⟩ | ⟨-, hdouble⟩
  · rw [hdecimal]
    exact ⟨by omega, by omega, by omega⟩
  · rw [hdouble]
    trivial

/-- Every code has its conversion; what has none is text of any length. -/
theorem withinLimits_standard (t : RemoteType) : t.standard.WithinLimits := by
  unfold RemoteType.standard
  cases t.typeCode with
  | bit =>
    dsimp only
    split
    · trivial
    · exact withinLimits_varchar _
  | tinyInt | smallInt | integer | bigInt => exact withinLimits_integer t (by decide)
  | decimal | numeric => exact withinLimits_decimal t
  | char | nChar | varchar | nVarchar | longVarchar | longNVarchar | clob | nClob => exact withinLimits_varchar _
  | time | timeWithTimezone => exact withinLimits_varchar 100
  | _ => trivial

/-- PostgreSQL's own mapping gives texts only, none of them longer than a text can be. -/
theorem withinLimits_postgresOwn? (t : RemoteType) : ∀ u ∈ t.postgresOwn?, u.WithinLimits := by
  unfold RemoteType.postgresOwn?
  cases t.typeCode with
  | other =>
    rintro _ ⟨⟩
    split
    · exact withinLimits_varchar _
    · exact rfl
  | sqlXml | distinct | binary =>
    rintro _ ⟨⟩
    exact rfl
  | _ => exact nofun

/-- The codes that PostgreSQL has rules of its own for. -/
def RemoteTypeCode.opaqueCodes : List RemoteTypeCode := [.other, .sqlXml, .distinct, .binary]

/-- PostgreSQL's own mapping leaves all types alone whose code is not opaque. -/
theorem postgresOwn?_eq_none {t : RemoteType} (h : t.typeCode ∉ RemoteTypeCode.opaqueCodes) :
    t.postgresOwn? = none := by
  unfold RemoteType.postgresOwn?
  split
  case h_5 => rfl
  all_goals
    next hcode =>
      rw [hcode] at h
      exact absurd (by decide) h

theorem postgres_eq_standard {ε : Type} {t : RemoteType} (h : t.typeCode ∉ RemoteTypeCode.opaqueCodes) :
    (t.postgres : Traced ε CanonicalType) = pure t.standard := by
  unfold RemoteType.postgres
  rw [postgresOwn?_eq_none h]

/-- **Every mapped type is within the limits of the federation engine.** This holds for the standard mapping and for
that of PostgreSQL, whatever code, name, size and scale are reported. The two mappings differ at most for the codes that
PostgreSQL has rules of its own for; for any other code they give the same type, and nothing is logged. -/
theorem RemoteType.mapped_type_within_limits {ε : Type} (t : RemoteType) :
    t.standard.WithinLimits ∧
    (∃ u, (t.postgres : Traced ε CanonicalType).result = .ok u ∧ u.WithinLimits) ∧
    (t.typeCode ∉ [.other, .sqlXml, .distinct, .binary] →
      (t.postgres : Traced ε CanonicalType) = pure t.standard) := by
  refine ⟨withinLimits_standard t, ?_, postgres_eq_standard⟩
  unfold RemoteType.postgres
  cases hown : t.postgresOwn? with
  | some u => exact ⟨u, rfl, withinLimits_postgresOwn? t u hown⟩
  | none => exact ⟨t.standard, rfl, withinLimits_standard t⟩

/-- Precision and scale at the limit are within it. -/
theorem RemoteType.widest_fraction_within_limits :
    let t : RemoteType := { code := 3, name := "numeric", size := 36, scale := 36 }
    t.typeCode ∉ [.other, .sqlXml, .distinct, .binary] ∧ t.standard = .exactNumeric 36 36 ∧
      t.standard.WithinLimits ∧ (t.postgres : Traced ConfigError CanonicalType) = pure (.exactNumeric 36 36) := by
  intro t
  have hcode : t.typeCode ∉ [.other, .sqlXml, .distinct, .binary] := by decide
  have hstandard : t.standard = .exactNumeric 36 36 := by decide
  obtain ⟨hlimits, -, hsame⟩ := mapped_type_within_limits (ε := ConfigError) t
  exact ⟨hcode, hstandard, hlimits, hstandard ▸ hsame hcode⟩

/-! ## The numbers of a decimal type -/

/-- The number belongs to the decimal type: it has at most `precision` digits, and the last of them stands `scale`
places behind the point, or in front of it if the scale is negative. -/
def IsDecimal (precision scale : ℤ) (q : ℚ) : Prop :=
  ∃ n : ℤ, |(n : ℚ)| < 10 ^ precision ∧ q = n * 10 ^ (-scale)

section Decimals

variable {p s p' s' : ℤ} {q : ℚ}

theorem IsDecimal.abs_lt (h : IsDecimal p s q) : |q| < 10 ^ (p - s) := by
  obtain ⟨n, hn, rfl⟩ := h
  have hpos : (0 : ℚ) < 10 ^ (-s) := by positivity
  rw [abs_mul, abs_of_pos hpos, sub_eq_add_neg, zpow_add₀ (by norm_num)]
  exact mul_lt_mul_of_pos_right hn hpos

/-- In a type with at least as many places behind the point, only digits in front of it can be missing. -/
theorem IsDecimal.iff_abs_lt (h : IsDecimal p s q) (hscale : s ≤ s') :
    IsDecimal p' s' q ↔ |q| < 10 ^ (p' - s') := by
  refine ⟨IsDecimal.abs_lt, fun hlt => ?_⟩
  obtain ⟨n, -, rfl⟩ := h
  -- the same number, counted in units of the last place of the other type
  have hunits : (n : ℚ) * 10 ^ (-s) = ((n * 10 ^ (s' - s).toNat : ℤ) : ℚ) * 10 ^ (-s') := by
    have hcast : ((s' - s).toNat : ℤ) = s' - s := Int.toNat_of_nonneg (by omega)
    push_cast
    rw [← zpow_natCast, hcast, mul_assoc, ← zpow_add₀ (by norm_num)]
    congr 2
    omega
  refine ⟨n * 10 ^ (s' - s).toNat, ?_, hunits⟩
  rw [hunits, abs_mul, abs_of_pos (by positivity : (0 : ℚ) < 10 ^ (-s')), sub_eq_add_neg p',
    zpow_add₀ (by norm_num)] at hlt
  exact lt_of_mul_lt_mul_right hlt (by positivity)

/-- A power of ten that has a place in the type. -/
theorem isDecimal_pow {k : ℕ} (h : (k : ℤ) < p) : IsDecimal p s (10 ^ (k - s)) := by
  refine ⟨10 ^ k, ?_, ?_⟩
  · push_cast
    rw [← zpow_natCast, abs_of_pos (by positivity)]
    exact (zpow_lt_zpow_iff_right₀ (by norm_num)).mpr h
  · push_cast
    rw [← zpow_natCast, ← zpow_add₀ (by norm_num), sub_eq_add_neg]

/-- No number but zero is smaller than a unit of the last place. -/
theorem IsDecimal.zpow_le_abs (h : IsDecimal p s q) (hq : q ≠ 0) : 10 ^ (-s) ≤ |q| := by
  obtain ⟨n, -, rfl⟩ := h
  have hn : n ≠ 0 := by
    rintro rfl
    simp at hq
  have hone : (1 : ℚ) ≤ |(n : ℚ)| := by exact_mod_cast Int.one_le_abs hn
  rw [abs_mul, abs_of_pos (by positivity : (0 : ℚ) < 10 ^ (-s))]
  exact le_mul_of_one_le_left (by positivity) hone

/-- **A decimal type holds another one if and only if it has no fewer places on either side of the point.** -/
theorem forall_isDecimal_iff (hp : 1 ≤ p) :
    (∀ q, IsDecimal p s q → IsDecimal p' s' q) ↔ s ≤ s' ∧ p - s ≤ p' - s' := by
  constructor
  · intro h
    -- a unit of the last place needs the places behind the point, one of the first place those in front of it
    have hlast := (h _ (isDecimal_pow (k := 0) (by omega))).zpow_le_abs (by positivity)
    have hfirst := (h _ (isDecimal_pow (k := (p - 1).toNat) (by omega))).abs_lt
    rw [abs_of_pos (by positivity), zpow_le_zpow_iff_right₀ (by norm_num)] at hlast
    rw [abs_of_pos (by positivity), zpow_lt_zpow_iff_right₀ (by norm_num)] at hfirst
    omega
  · rintro ⟨hscale, hfront⟩ q hq
    rw [hq.iff_abs_lt hscale]
    exact lt_of_lt_of_le hq.abs_lt ((zpow_le_zpow_iff_right₀ (by norm_num)).mpr hfront)

end Decimals

/-- Decimal types of the two kinds have the same conversion, and PostgreSQL adds nothing to it. -/
theorem standard_eq_decimal {t : RemoteType} (h : t.typeCode = .decimal ∨ t.typeCode = .numeric) :
    t.standard = t.decimal ∧ t.typeCode ∉ RemoteTypeCode.opaqueCodes := by
  unfold RemoteType.standard
  rcases h with h | h
  · rw [h]
    exact ⟨rfl, by decide⟩
  · rw [h]
    exact ⟨rfl, by decide⟩

/-- **An exact type holds all numbers of the remote one if and only if the remote scale is not negative.** A remote
decimal type becomes an exact one if its precision and scale can be those of an exact type, and a double otherwise, in
both mappings. The exact type has at least as many places behind the point. In front of it there are at least as many
if and only if the scale is not negative, and then no number is lost. Otherwise the numbers are lost that are too large
for the exact type. -/
theorem RemoteType.exact_type_holds_numbers_iff {ε : Type} (t : RemoteType)
    (h : t.typeCode = .decimal ∨ t.typeCode = .numeric) :
    let p := t.size.toInt
    let s := t.scale.toInt
    (t.postgres : Traced ε CanonicalType).result = .ok t.standard ∧
    ((t.standard = .double ∧ ¬ (1 ≤ p ∧ p ≤ 36 ∧ s ≤ p)) ∨
      ∃ p' s' : UInt32, t.standard = .exactNumeric p' s' ∧ (1 ≤ p ∧ p ≤ 36 ∧ s ≤ p) ∧ s ≤ s'.toNat ∧
        (p - s ≤ p'.toNat - s'.toNat ↔ 0 ≤ s) ∧
        ((∀ q, IsDecimal p s q → IsDecimal p'.toNat s'.toNat q) ↔ 0 ≤ s) ∧
        ∀ q, IsDecimal p s q → (IsDecimal p'.toNat s'.toNat q ↔ |q| < 10 ^ ((p'.toNat : ℤ) - s'.toNat))) := by
  intro p s
  obtain ⟨hstandard, hcode⟩ := standard_eq_decimal h
  refine ⟨by rw [postgres_eq_standard hcode]; rfl, ?_⟩
  rw [hstandard]
  rcases decimal_cases t with ⟨hexact, p', s', hdecimal, hp, hs⟩ | ⟨hnot, hdouble⟩
  · have hscale : s ≤ s'.toNat := by omega
    refine .inr ⟨p', s', hdecimal, hexact, hscale, ?_, ?_, fun q hq => hq.iff_abs_lt hscale⟩
    · omega
    · rw [forall_isDecimal_iff hexact.1]
      omega
  · exact .inl ⟨hdouble, hnot⟩

/-- Of the numbers that count in hundreds, those are kept that have no more than five digits. -/
theorem RemoteType.hundreds_kept_below_limit :
    let t : RemoteType := { code := 2, name := "numeric", size := 5, scale := -2 }
    t.typeCode = .numeric ∧ t.standard = .exactNumeric 5 0 ∧
      ∀ q, IsDecimal 5 (-2) q → (IsDecimal 5 0 q ↔ |q| < 100000) := by
  intro t
  have hcode : t.typeCode = .numeric := by decide
  have hstandard : t.standard = .exactNumeric 5 0 := by decide
  obtain ⟨-, ⟨hdouble, -⟩ | ⟨p', s', hexact, -, -, -, -, hkept⟩⟩ :=
    exact_type_holds_numbers_iff (ε := ConfigError) t (.inr hcode)
  · rw [hstandard] at hdouble
    cases hdouble
  · rw [hstandard] at hexact
    cases hexact
    have hlimit : (10 : ℚ) ^ ((UInt32.toNat 5 : ℤ) - UInt32.toNat 0) = 100000 := by
      show (10 : ℚ) ^ ((5 : ℤ) - 0) = 100000
      norm_num
    rw [hlimit] at hkept
    exact ⟨hcode, hstandard, hkept⟩

/-- A type with two zeros in front of its point is mapped to one that lacks the places for them. -/
theorem RemoteType.hundreds_lose_two_places :
    let t : RemoteType := { code := 2, name := "numeric", size := 36, scale := -2 }
    t.typeCode = .numeric ∧ t.standard = .exactNumeric 36 0 ∧ ¬ ((36 : ℤ) - (-2) ≤ 36 - 0) ∧
      IsDecimal 36 (-2) (10 ^ 37) ∧ ¬ IsDecimal 36 0 (10 ^ 37) := by
  refine ⟨by decide, by decide, by decide, ⟨10 ^ 35, by norm_num, by norm_num⟩, fun h => ?_⟩
  have hlt := h.abs_lt
  norm_num at hlt

end Pushdown
