import Pushdown.Proofs.Generation.Tokens
import Pushdown.Proofs.Number.DecimalText

/-!
# `Proofs.Generation.Doubles` — the texts of finite doubles

The remote engine reads a number without a dot and an exponent as an exact one. A double therefore always keeps one of
the two, and its digits are enough for the engine to find the same double again.

## Contents

* `compile_double` — the text of a finite double.
* `Adapter.double_rounds_back` — it reads in one way, and its exact value rounds to the double.
-/

namespace Pushdown

theorem doubleExpr_of_isFinite {x : Binary64} (hx : x.isFinite) : doubleExpr x = .number (doubleStyle.format x) := by
  unfold doubleExpr
  rw [if_pos hx]

/-- A finite double is compiled to its digits alone. -/
theorem compile_double (a : Adapter) (context : GenerationContext) {x : Binary64} (hx : x.isFinite) :
    (a.compile context (.literal (.double x))).result = .ok (doubleStyle.format x) := by
  have hlexemes : ((Generator.postgres a.folding context).lexemes (.literal (.double x))).result =
      .ok [.word (doubleStyle.format x)] := by
    show Except.ok (doubleExpr x).lexemes = Except.ok (Sql.Expr.number (doubleStyle.format x)).lexemes
    rw [doubleExpr_of_isFinite hx]
  generalize doubleStyle.format x = text at hlexemes ⊢
  rw [Adapter.compile, Generator.result_generate, hlexemes]
  show Except.ok (String.ofList (text.toList ++ [])) = Except.ok text
  rw [List.append_nil, String.ofList_toList]

/-- **A finite double is written inexactly and rounds back.** Its text is a decimal text, with a fraction or an
exponent, and the exact value of the text rounds to the double and to no other one, except that the two zeros are not
told apart. -/
theorem Adapter.double_rounds_back (a : Adapter) (context : GenerationContext) (x : Binary64) (hx : x.isFinite) :
    ∃ sql, (a.compile context (.literal (.double x))).result = .ok sql ∧
      (∃ t : DecimalText, t.chars = sql.toList) ∧
      ∀ t : DecimalText, t.chars = sql.toList →
        t.negative = x.isNegative ∧ (t.fraction.isSome ∨ t.exponent.isSome) ∧
          ∀ y : Binary64, ¬ y.isNaN → (Binary64.Rounds t.value y ↔ y = x ∨ (y.magnitude = 0 ∧ x.magnitude = 0)) := by
  obtain ⟨t, hchars, hnegative, hinexact, hmagnitude⟩ := exists_decimalText x
  have hsql : t.chars = (doubleStyle.format x).toList := by
    rw [hchars, FloatStyle.format, String.toList_ofList]
  have hrounds : Binary64.Rounds t.value x := by
    rw [DecimalText.value, hnegative, hmagnitude]
    exact rounds_shortest doubleStyle.tie x
  refine ⟨_, compile_double a context hx, ⟨t, hsql⟩, ?_⟩
  intro t' hsql'
  obtain rfl : t' = t := DecimalText.chars_injective (hsql'.trans hsql.symm)
  refine ⟨hnegative, hinexact, fun y hy => ?_⟩
  rw [hrounds.iff_toRat_eq (Binary64.not_isNaN_of_isFinite hx) hy, Binary64.toRat_eq_iff]

/-- Where the notation changes, at the ends of the range, and below the first normal number. -/
theorem Adapter.doubles_at_the_limits_round_back :
    let a : Adapter := { properties := { entries := [] }, filter := ⟨.preserveCase, false⟩ }
    let reads (x : Binary64) (text : String) : Prop :=
      (a.compile {} (.literal (.double x))).result = .ok text ∧
        ∀ t : DecimalText, t.chars = text.toList → Binary64.Rounds t.value x
    reads ⟨0x4341C37937E08000⟩ "1e16" ∧ reads ⟨0x4341C37937E07FFF⟩ "9999999999999998.0" ∧
      reads ⟨0x3EB0C6F7A0B5ED8D⟩ "0.000001" ∧ reads ⟨0x8000000000000001⟩ "-5e-324" ∧
      reads ⟨0x7FEFFFFFFFFFFFFF⟩ "1.7976931348623157e308" := by
  intro a reads
  have hreads : ∀ (x : Binary64) (text : String), x.isFinite → doubleStyle.format x = text → reads x text := by
    intro x text hx htext
    obtain ⟨sql, hsql, -, hall⟩ := a.double_rounds_back {} x hx
    obtain rfl : sql = text := by
      rw [compile_double a {} hx] at hsql
      exact (Except.ok.inj hsql).symm.trans htext
    refine ⟨hsql, fun t ht => ?_⟩
    obtain ⟨-, -, hrounds⟩ := hall t ht
    exact (hrounds x (Binary64.not_isNaN_of_isFinite hx)).mpr (.inl rfl)
  refine ⟨hreads _ _ ?_ ?_, hreads _ _ ?_ ?_, hreads _ _ ?_ ?_, hreads _ _ ?_ ?_, hreads _ _ ?_ ?_⟩ <;> decide +kernel

end Pushdown
