import Mathlib.Data.List.Chain
import Pushdown.Text.Quote

/-!
# `Proofs.Text.Quote` — which texts the printer writes with every quote twice

The printer looks at a text as if it might already be escaped: a quote behind a backslash is left alone, and of two
quotes in a row the second is dropped. To a text whose quotes are already written twice that does no harm. Any other
text is written with every quote twice exactly if none of its quotes stands directly behind a quote or a backslash.

## Contents

* `Unescaped` — a quote that does not look escaped.
* `protect_eq_double_iff` — the texts that are printed with every quote twice.
-/

namespace Pushdown.Text

variable {q : Char}

/-- The second character is no quote whose escape the printer would see in the first. -/
def Unescaped (q : Char) (first second : Char) : Prop := second = q → first ≠ q ∧ first ≠ '\\'

instance (q : Char) : DecidableRel (Unescaped q) := fun first second =>
  inferInstanceAs (Decidable (second = q → first ≠ q ∧ first ≠ '\\'))

/-- The printer never writes more than every quote twice. -/
theorem length_protect_le (m : QuoteMemory) (cs : List Char) :
    (protect q m cs).length ≤ (double q cs).length := by
  induction cs generalizing m with
  | nil => cases m <;> exact Nat.le_refl 0
  | cons c cs ih =>
    by_cases hc : c = q
    · subst hc
      have hpending := ih .pending
      have hplain := ih .plain
      have hbackslash := ih .backslash
      cases m <;> simp only [protect, double, if_true, List.length_cons] <;> omega
    · have hrest := ih (if c = '\\' then .backslash else .plain)
      simp only [protect, double, hc, if_false, List.length_cons]
      omega

/-- What the printer remembers stands for the character before. -/
theorem protect_eq_double_iff_of_memory (hq : q ≠ '\\') (cs : List Char) :
    (protect q .plain cs = double q cs ↔ cs.IsChain (Unescaped q)) ∧
      (protect q .backslash cs = double q cs ↔ ('\\' :: cs).IsChain (Unescaped q)) ∧
      (protect q .pending cs = double q cs ↔ (q :: cs).IsChain (Unescaped q)) := by
  induction cs with
  | nil => simp [protect, double]
  | cons c cs ih =>
    obtain ⟨ihplain, ihbackslash, ihpending⟩ := ih
    by_cases hc : c = q
    · subst hc
      -- A quote that is printed once or not at all leaves too few characters for the rest.
      have hbackslash := length_protect_le (q := c) .backslash cs
      have hplain := length_protect_le (q := c) .plain cs
      have hshort : ∀ m, m ≠ .plain → protect c m (c :: cs) ≠ double c (c :: cs) := by
        intro m hm h
        have hlength := congrArg List.length h
        cases m with
        | plain => exact hm rfl
        | backslash | pending =>
          simp only [protect, double, if_true, List.length_cons] at hlength
          omega
      refine ⟨?_, ?_, ?_⟩
      · simp [protect, double, ihpending]
      · exact iff_of_false (hshort _ (by simp)) (by simp [Unescaped])
      · exact iff_of_false (hshort _ (by simp)) (by simp [Unescaped])
    · -- Any other character is printed as it is, and only a backslash is remembered.
      have hfirst : ∀ first, Unescaped q first c := fun first h => absurd h hc
      have hrest : protect q (if c = '\\' then .backslash else .plain) cs = double q cs ↔
          (c :: cs).IsChain (Unescaped q) := by
        by_cases hb : c = '\\'
        · rw [if_pos hb, ihbackslash, hb]
        · rw [if_neg hb, ihplain]
          have hnext : ∀ second, Unescaped q c second := fun second _ => ⟨hc, hb⟩
          cases cs with
          | nil => simp
          | cons d cs => simp [List.isChain_cons_cons, hnext d]
      simp only [protect, double, hc, if_false, List.cons.injEq, true_and, hrest, List.isChain_cons_cons, hfirst,
        and_self]

/-- **A text is printed with every quote twice exactly if no quote of it looks escaped.** -/
theorem protect_eq_double_iff (hq : q ≠ '\\') (cs : List Char) :
    protect q .plain cs = double q cs ↔ cs.IsChain (Unescaped q) :=
  (protect_eq_double_iff_of_memory hq cs).1

/-- A text without quotes has none that looks escaped. -/
theorem isChain_unescaped {cs : List Char} (h : q ∉ cs) : cs.IsChain (Unescaped q) := by
  refine List.Pairwise.isChain (List.pairwise_of_forall_mem_list ?_)
  intro first _ second hsecond heq
  exact absurd (heq ▸ hsecond) h

end Pushdown.Text
