import Pushdown.Postgres.TableFilter
import Pushdown.Proofs.Outcome
import Pushdown.Proofs.Query.Phrase
import Pushdown.Proofs.Sql.Spelling
import Pushdown.Proofs.Text.Case

/-!
# `Proofs.Postgres.Folding` — whether an exposed table can be reached again

A remote table is exposed under a folded name, and SQL for it writes that name folded back. The filter is there so
that only tables are exposed that SQL reaches again. Three notions of case meet here: the filter asks for the
property Uppercase, the folding for a name of ASCII letters, and SQL takes the full lower case. They agree except
for title-case letters, which the filter lets through and lower case changes.

## Contents

* `lower_upper_of_isUnquotedName` — names without quotes go up and come back.
* `includes_eq_true_iff` — the tables that are exposed.
* `written_foldTable` — the name that SQL writes for an exposed table.
* `foldTable_injective_of_includes` — no two exposed tables share a name.
* `TableFilter.exposed_table_reached_iff` — the exposed tables that SQL reaches.
-/

namespace Pushdown

/-! ## Names without quotes -/

theorem toNat_lt_of_isNamePart {c : Char} (h : isNamePart c) : c.toNat < 128 := by
  simp only [isNamePart, isNameStart, isDigit, Bool.or_eq_true, Bool.and_eq_true, decide_eq_true_eq] at h
  rcases h with (⟨-, h⟩ | ⟨-, h⟩) | rfl
  · have hle : c.toNat ≤ 'z'.toNat := h
    have hz : 'z'.toNat = 122 := rfl
    omega
  · omega
  · decide

/-- Each character of such a name has one upper case, and comes back from it. -/
theorem upperChar_of_isNamePart {c : Char} (h : isNamePart c) :
    Text.upperChar c = [c.toUpper] ∧ Text.lowerChar c.toUpper = [c] ∧ c.toUpper ≠ Text.capitalSigma := by
  have hall : ∀ c : Char, c.toNat < 128 → isNamePart c →
      Text.upperChar c = [c.toUpper] ∧ Text.lowerChar c.toUpper = [c] ∧ c.toUpper ≠ Text.capitalSigma := by
    decide +kernel
  exact hall c (toNat_lt_of_isNamePart h) h

theorem isUppercase_toUpper_of_isNameStart {c : Char} (h : isNameStart c) : Text.isUppercase c.toUpper := by
  have hall : ∀ c : Char, c.toNat < 128 → isNameStart c → Text.isUppercase c.toUpper := by decide +kernel
  exact hall c (toNat_lt_of_isNamePart (by simp [isNamePart, h])) h

theorem not_isTitlecase_of_isNamePart {c : Char} (h : isNamePart c) : ¬ Text.isTitlecase c := by
  intro htitle
  have hlarge : ∀ n ∈ Text.titlecaseRanges.flatMap Text.CodeRange.codes, 128 ≤ n := by decide
  have hc := hlarge c.toNat (Text.mem_codes_of_inRanges htitle)
  have hsmall := toNat_lt_of_isNamePart h
  omega

theorem flatMap_upperChar {cs : List Char} (h : ∀ c ∈ cs, isNamePart c) :
    cs.flatMap Text.upperChar = cs.map Char.toUpper := by
  induction cs with
  | nil => rfl
  | cons c cs ih =>
    rw [List.flatMap_cons, (upperChar_of_isNamePart (h c (by simp))).1, ih fun b hb => h b (by simp [hb])]
    rfl

/-- ASCII letters come back from upper case, one by one, since none of them depends on its neighbours. -/
theorem lowerChars_map_toUpper {cs : List Char} (h : ∀ c ∈ cs, isNamePart c) (passed : List Char) :
    Text.lowerChars passed (cs.map Char.toUpper) = cs := by
  induction cs generalizing passed with
  | nil => rfl
  | cons c cs ih =>
    obtain ⟨-, hlower, hsigma⟩ := upperChar_of_isNamePart (h c (by simp))
    rw [List.map_cons, Text.lowerChars, if_neg hsigma, hlower, ih fun b hb => h b (by simp [hb])]
    rfl

/-- A name without quotes is a letter and further characters, all of them allowed inside. -/
theorem exists_of_isUnquotedName {name : String} (h : isUnquotedName name) :
    ∃ c cs, name.toList = c :: cs ∧ isNameStart c ∧ ∀ b ∈ c :: cs, isNamePart b := by
  unfold isUnquotedName at h
  split at h
  · cases h
  next c cs hname =>
    simp only [Bool.and_eq_true, List.all_eq_true] at h
    refine ⟨c, cs, hname, h.1, ?_⟩
    rw [List.forall_mem_cons]
    exact ⟨by simp [isNamePart, h.1], h.2⟩

/-- A name without quotes comes back from its upper case. -/
theorem lower_upper_of_isUnquotedName {name : String} (h : isUnquotedName name) :
    Text.lower (Text.upper name) = name := by
  obtain ⟨c, cs, hname, -, hparts⟩ := exists_of_isUnquotedName h
  rw [Text.lower, Text.upper, String.toList_ofList, hname, flatMap_upperChar hparts,
    lowerChars_map_toUpper hparts, ← hname, String.ofList_toList]

/-- The upper case of a name without quotes begins with an upper-case letter. -/
theorem hasUppercase_upper_of_isUnquotedName {name : String} (h : isUnquotedName name) :
    Text.hasUppercase (Text.upper name) := by
  obtain ⟨c, cs, hname, hstart, hparts⟩ := exists_of_isUnquotedName h
  rw [Text.hasUppercase, Text.upper, String.toList_ofList, hname, flatMap_upperChar hparts]
  simp [isUppercase_toUpper_of_isNameStart hstart]

/-! ## The filter -/

/-- A table is exposed if no name is folded, if its name has no upper case, or if it is a name without quotes. -/
theorem includes_eq_true_iff {filter : TableFilter} {t : String} :
    (filter.includes t).result = .ok true ↔
      filter.folding = .preserveCase ∨ Text.hasUppercase t = false ∨ isUnquotedName t := by
  unfold TableFilter.includes
  cases hshape : !Text.hasUppercase t || isUnquotedName t with
  | true =>
    simp only [Bool.or_eq_true, Bool.not_eq_true'] at hshape
    simp [hshape]
  | false =>
    simp only [Bool.or_eq_false_iff, Bool.not_eq_false'] at hshape
    cases hfolding : filter.folding with
    | preserveCase => simp
    | convertToUpper => cases filter.ignoresUppercase <;> simp [hshape]

/-- **The name that SQL writes for an exposed table.** It is the remote one, unless that holds a title-case letter. -/
theorem written_foldTable {filter : TableFilter} {t : String} (h : (filter.includes t).result = .ok true) :
    filter.folding.written (filter.folding.foldTable t) = t ↔
      (filter.folding = .convertToUpper → ∀ c ∈ t.toList, ¬ Text.isTitlecase c) := by
  rw [includes_eq_true_iff] at h
  cases hfolding : filter.folding with
  | preserveCase => simp [CaseFolding.written, CaseFolding.foldTable]
  | convertToUpper =>
    simp only [hfolding, reduceCtorEq, false_or] at h
    simp only [CaseFolding.written, CaseFolding.foldTable, forall_const]
    by_cases hname : isUnquotedName t
    · obtain ⟨c, cs, ht, -, hparts⟩ := exists_of_isUnquotedName hname
      rw [if_pos hname, lower_upper_of_isUnquotedName hname, ht]
      exact iff_of_true rfl fun b hb => not_isTitlecase_of_isNamePart (hparts b hb)
    · rw [if_neg hname]
      exact Text.lower_eq_self_iff (h.resolve_right hname)

/-- Tables that are exposed have different names if the remote ones do. -/
theorem foldTable_injective_of_includes {filter : TableFilter} {t u : String}
    (ht : (filter.includes t).result = .ok true) (hu : (filter.includes u).result = .ok true)
    (h : filter.folding.foldTable t = filter.folding.foldTable u) : t = u := by
  rw [includes_eq_true_iff] at ht hu
  cases hfolding : filter.folding with
  | preserveCase => simpa [hfolding, CaseFolding.foldTable] using h
  | convertToUpper =>
    simp only [hfolding, reduceCtorEq, false_or] at ht hu
    simp only [hfolding, CaseFolding.foldTable] at h
    by_cases hnamet : isUnquotedName t <;> by_cases hnameu : isUnquotedName u
    · -- both went up, and both come back
      rw [if_pos hnamet, if_pos hnameu] at h
      rw [← lower_upper_of_isUnquotedName hnamet, h, lower_upper_of_isUnquotedName hnameu]
    · -- only one has an upper-case letter
      rw [if_pos hnamet, if_neg hnameu] at h
      have hno := hu.resolve_right hnameu
      rw [← h, hasUppercase_upper_of_isUnquotedName hnamet] at hno
      cases hno
    · rw [if_neg hnamet, if_pos hnameu] at h
      have hno := ht.resolve_right hnamet
      rw [h, hasUppercase_upper_of_isUnquotedName hnameu] at hno
      cases hno
    · rwa [if_neg hnamet, if_neg hnameu] at h

/-! ## The exposed tables that SQL reaches -/

/-- A name between double quotes is one token, and reads as the name that was to be written. -/
theorem lex_quote (folding : CaseFolding) (name : String) :
    Sql.lex (folding.quote name).lexeme.chars = some [.name (folding.written name)] := by
  rw [CaseFolding.quote_eq]
  exact (Sql.spells_name (folding.written name)).lex_eq

/-- **An exposed table is reached exactly if its name has no title-case letter that lower case changes.** SQL names
it by one quoted name; that reads as the remote name if names are not folded, and otherwise if and only if no
letter of the remote name is in title case. -/
theorem TableFilter.exposed_table_reached_iff (filter : TableFilter) (t : String)
    (h : (filter.includes t).result = .ok true) :
    ∃ name, Sql.lex (filter.folding.quote (filter.folding.foldTable t)).lexeme.chars = some [.name name] ∧
      (name = t ↔ (filter.folding = .convertToUpper → ∀ c ∈ t.toList, ¬ Text.isTitlecase c)) :=
  ⟨_, lex_quote _ _, written_foldTable h⟩

/-- A name with quotes, a blank and letters outside ASCII is reached. -/
theorem TableFilter.quoted_table_reached :
    let filter : TableFilter := ⟨.convertToUpper, true⟩
    let t := "straße \"ος\""
    (filter.includes t).result = .ok true ∧
      Sql.lex (filter.folding.quote (filter.folding.foldTable t)).lexeme.chars = some [.name t] := by
  intro filter t
  have hincluded : (filter.includes t).result = .ok true :=
    includes_eq_true_iff.mpr (.inr (.inl (by decide +kernel)))
  obtain ⟨name, hname, hiff⟩ := exposed_table_reached_iff filter t hincluded
  have hplain : t.toList.all (fun c => !Text.isTitlecase c) = true := by decide +kernel
  have hreached : name = t := hiff.mpr fun _ c hc => by
    simpa using List.all_eq_true.mp hplain c hc
  exact ⟨hincluded, by rw [hname, hreached]⟩

/-- A table named by a title-case letter is exposed, and SQL for it names another table. -/
theorem TableFilter.titlecase_table_not_reached :
    let filter : TableFilter := ⟨.convertToUpper, false⟩
    (filter.includes "ǅ").result = .ok true ∧
      Sql.lex (filter.folding.quote (filter.folding.foldTable "ǅ")).lexeme.chars = some [.name "ǆ"] ∧
      "ǆ" ≠ "ǅ" := by
  intro filter
  have hwritten : filter.folding.written (filter.folding.foldTable "ǅ") = "ǆ" := by decide +kernel
  exact ⟨includes_eq_true_iff.mpr (.inr (.inl (by decide +kernel))), by rw [lex_quote, hwritten], by decide⟩

end Pushdown
