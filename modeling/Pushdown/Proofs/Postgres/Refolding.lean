import Pushdown.Proofs.Postgres.Folding
import Pushdown.Proofs.Text.Upper

/-!
# `Proofs.Postgres.Refolding` — names that are folded more than once

Names reach the folding from two sides: remote names that are to be exposed, and exposed names that come back in a query.
Which of the two a name is cannot be told from the name. So it matters that folding an exposed name again changes
nothing, and that SQL is the same for a name before and after folding.

For tables this is a matter of ASCII letters: a name without quotes is in lower case, its upper case is no longer a name
without quotes, and everything else is left alone. For columns it rests on the whole of Unicode, since every name is
taken to upper case.

## Contents

* `hasUppercase_of_isUnquotedName`, `lower_of_isUnquotedName` — a name without quotes has no upper-case letter,
  and is its own lower case.
* `foldTable_foldTable`, `quote_foldTable` — an exposed table.
* `foldColumn_foldColumn`, `foldColumn_foldTable` — an exposed column.
* `CaseFolding.folding_is_stable` — all of it, for both foldings and every name.
-/

namespace Pushdown

/-! ## Names without quotes -/

theorem not_isUppercase_of_isNamePart {c : Char} (h : isNamePart c) : ¬ Text.isUppercase c := by
  have hall : ∀ c : Char, c.toNat < 128 → isNamePart c → ¬ Text.isUppercase c := by decide +kernel
  exact hall c (toNat_lt_of_isNamePart h) h

section Names

variable {name : String}

theorem hasUppercase_of_isUnquotedName (h : isUnquotedName name) : Text.hasUppercase name = false := by
  obtain ⟨c, cs, hname, -, hparts⟩ := exists_of_isUnquotedName h
  rw [Text.hasUppercase, hname, List.any_eq_false]
  exact fun b hb => not_isUppercase_of_isNamePart (hparts b hb)

theorem lower_of_isUnquotedName (h : isUnquotedName name) : Text.lower name = name := by
  rw [Text.lower_eq_self_iff (hasUppercase_of_isUnquotedName h)]
  obtain ⟨c, cs, hname, -, hparts⟩ := exists_of_isUnquotedName h
  rw [hname]
  exact fun b hb => not_isTitlecase_of_isNamePart (hparts b hb)

/-- In upper case it is a name without quotes no more. -/
theorem not_isUnquotedName_upper (h : isUnquotedName name) : ¬ isUnquotedName (Text.upper name) := by
  intro hupper
  have hnone := hasUppercase_of_isUnquotedName hupper
  rw [hasUppercase_upper_of_isUnquotedName h] at hnone
  cases hnone

end Names

/-! ## Folding twice -/

theorem foldTable_of_isUnquotedName {t : String} (h : isUnquotedName t) :
    CaseFolding.convertToUpper.foldTable t = Text.upper t := if_pos h

theorem foldTable_of_not_isUnquotedName {t : String} (h : ¬ isUnquotedName t) :
    CaseFolding.convertToUpper.foldTable t = t := if_neg h

section Folding

variable (folding : CaseFolding) (t : String)

theorem foldTable_foldTable : folding.foldTable (folding.foldTable t) = folding.foldTable t := by
  cases folding with
  | preserveCase => rfl
  | convertToUpper =>
    by_cases hname : isUnquotedName t
    · rw [foldTable_of_isUnquotedName hname, foldTable_of_not_isUnquotedName (not_isUnquotedName_upper hname)]
    · rw [foldTable_of_not_isUnquotedName hname, foldTable_of_not_isUnquotedName hname]

/-- SQL is the same for a table before and after folding. -/
theorem quote_foldTable : folding.quote (folding.foldTable t) = folding.quote t := by
  cases folding with
  | preserveCase => rfl
  | convertToUpper =>
    by_cases hname : isUnquotedName t
    · rw [foldTable_of_isUnquotedName hname, CaseFolding.quote_eq, CaseFolding.quote_eq]
      -- SQL has both in lower case, which the remote name is in already
      show Sql.quotedIdent (Text.lower (Text.upper t)) = Sql.quotedIdent (Text.lower t)
      rw [lower_upper_of_isUnquotedName hname, lower_of_isUnquotedName hname]
    · rw [foldTable_of_not_isUnquotedName hname]

theorem foldColumn_foldColumn : folding.foldColumn (folding.foldColumn t) = folding.foldColumn t := by
  cases folding with
  | preserveCase => rfl
  | convertToUpper => exact Text.upper_upper t

/-- A column folds as it does if it was folded as a table first. -/
theorem foldColumn_foldTable : folding.foldColumn (folding.foldTable t) = folding.foldColumn t := by
  cases folding with
  | preserveCase => rfl
  | convertToUpper =>
    by_cases hname : isUnquotedName t
    · rw [foldTable_of_isUnquotedName hname]
      exact Text.upper_upper t
    · rw [foldTable_of_not_isUnquotedName hname]

/-- **Folding is stable.** Folding the exposed name of a table again changes nothing, and SQL writes the same name for
it as for the remote one. Folding the exposed name of a column again changes nothing either, nor does it matter
whether its name was first folded as that of a table. All this holds for both foldings and for every name. -/
theorem CaseFolding.folding_is_stable :
    folding.foldTable (folding.foldTable t) = folding.foldTable t ∧
    folding.quote (folding.foldTable t) = folding.quote t ∧
    folding.foldColumn (folding.foldColumn t) = folding.foldColumn t ∧
    folding.foldColumn (folding.foldTable t) = folding.foldColumn t :=
  ⟨foldTable_foldTable folding t, quote_foldTable folding t, foldColumn_foldColumn folding t,
    foldColumn_foldTable folding t⟩

end Folding

end Pushdown
