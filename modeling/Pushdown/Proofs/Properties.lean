import Pushdown.Properties
import Pushdown.Proofs.Text.Pieces

/-!
# `Proofs.Properties` — the list of errors that are passed over

The option is one text: entries between commas, written in any case and with any blanks around them, some of them empty.
Reading it brings every entry into one normal form. Entries in that form are read as they stand, so that a list can be
written back and read again; and since a comma always ends an entry, lists can be put together by a comma.

## Contents

* `get?_insert_self` — an option that was set has its value.
* `IsEntry`, `isEntry_of_mem` — the normal form, and that every entry has it.
* `errorEntries_append`, `errorEntries_intercalate` — lists that are put together.
* `mem_errorEntries` — which entries a list has.
* `ignored_errors_normalise` — all of it, for the option itself.
-/

namespace Pushdown.Properties

/-! ## Setting an option -/

/-- A key has the value that was set last. -/
theorem lookup_insertEntry (key value : String) (entries : List (String × String)) :
    (insertEntry key value entries).lookup key = some value := by
  induction entries with
  | nil => simp [insertEntry]
  | cons entry rest ih =>
    obtain ⟨k, v⟩ := entry
    rw [insertEntry]
    split
    · simp
    · split
      · simp
      · next hne =>
        rw [List.lookup_cons, beq_eq_false_iff_ne.mpr hne]
        exact ih

theorem get?_insert_self (p : Properties) (key value : String) : (p.insert key value).get? key = some value :=
  lookup_insertEntry key value p.entries

theorem ignoredErrors_insert (p : Properties) (list : String) :
    (p.insert ignoreKey list).ignoredErrors = errorEntries list := by
  rw [ignoredErrors, get?_insert_self]

/-! ## Entries -/

/-- The normal form of an entry: some text without commas and small ASCII letters, and without blanks at its ends. -/
structure IsEntry (entry : String) : Prop where
  nonempty : entry ≠ ""
  no_comma : ',' ∉ entry.toList
  no_small : ∀ c ∈ entry.toList, ¬ c.isLower
  trimmed : Text.Trimmed entry

section Entries

variable {entry list : String}

/-- The entries are the pieces in their normal form, as far as anything is left of them. -/
theorem mem_errorEntries :
    entry ∈ errorEntries list ↔
      entry ≠ "" ∧ ∃ piece ∈ Text.split ',' list, Text.asciiUpper (Text.trim piece) = entry := by
  unfold errorEntries
  rw [List.mem_filter, List.mem_map, decide_eq_true_eq, and_comm]

/-- The entries of a list hold no comma and no small ASCII letter, have no blanks at their ends, and are not empty. -/
theorem isEntry_of_mem (h : entry ∈ errorEntries list) : IsEntry entry := by
  obtain ⟨hne, piece, hpiece, rfl⟩ := mem_errorEntries.mp h
  have hseparate := (Text.split_eq_iff.mp rfl).separate piece hpiece
  refine ⟨hne, ?_, ?_, Text.trimmed_asciiUpper (Text.trimmed_trim piece)⟩
  · intro hcomma
    rw [Text.asciiUpper, String.toList_ofList] at hcomma
    obtain ⟨c, hc, hupper⟩ := List.mem_map.mp hcomma
    have hself : c = ',' := Text.eq_of_toUpper_eq (by decide) hupper
    exact hseparate (hself ▸ Text.mem_of_mem_trim hc)
  · intro c hc
    rw [Text.asciiUpper, String.toList_ofList] at hc
    obtain ⟨b, -, rfl⟩ := List.mem_map.mp hc
    exact Text.not_isLower_toUpper b

/-- An entry in normal form is left as it stands. -/
theorem IsEntry.asciiUpper_trim (h : IsEntry entry) : Text.asciiUpper (Text.trim entry) = entry := by
  rw [Text.trim_eq_self_iff.mpr h.trimmed, Text.asciiUpper_eq_self h.no_small]

/-! ## Lists that are put together -/

/-- A comma between two lists puts their entries together. -/
theorem errorEntries_append (a b : String) : errorEntries (a ++ "," ++ b) = errorEntries a ++ errorEntries b := by
  have hcomma : "," = String.singleton ',' := rfl
  unfold errorEntries
  rw [hcomma, Text.split_append, List.map_append, List.filter_append]

/-- Entries in normal form that are joined by commas are read as they were. -/
theorem errorEntries_intercalate {entries : List String} (h : ∀ entry ∈ entries, IsEntry entry) :
    errorEntries (",".intercalate entries) = entries := by
  cases entries with
  | nil => decide
  | cons first rest =>
    have hpieces : Text.split ',' (",".intercalate (first :: rest)) = first :: rest :=
      Text.split_eq_iff.mpr ⟨List.cons_ne_nil _ _, fun entry hentry => (h entry hentry).no_comma, rfl⟩
    have hself : (first :: rest).map (fun piece => Text.asciiUpper (Text.trim piece)) = first :: rest := by
      rw [List.map_congr_left fun entry hentry => (h entry hentry).asciiUpper_trim, List.map_id']
    unfold errorEntries
    rw [hpieces, hself, List.filter_eq_self]
    intro entry hentry
    exact decide_eq_true (h entry hentry).nonempty

end Entries

/-! ## The option -/

theorem isEntry_of_mem_ignoredErrors (p : Properties) : ∀ entry ∈ p.ignoredErrors, IsEntry entry := by
  intro entry hentry
  unfold ignoredErrors at hentry
  split at hentry
  · exact isEntry_of_mem hentry
  · cases hentry

theorem ignores_iff (p : Properties) (error : String) :
    p.ignores error ↔ ∃ list, p.get? ignoreKey = some list ∧ error ∈ errorEntries list := by
  rw [ignores, List.contains_iff_mem, ignoredErrors]
  cases p.get? ignoreKey with
  | none => simp
  | some list => simp

/-- **The list of errors to pass over is read into a normal form, comma by comma.** The entries of two lists with a comma
between them are those of the one and then those of the other. Every entry is in normal form, and the entries joined by
commas are read again as they are. An error is passed over if and only if it is not empty and, of the pieces that the
list is made of, one is equal to it without the blanks at its ends and with ASCII letters in upper case. -/
theorem ignored_errors_normalise (p : Properties) :
    (∀ a b, (p.insert ignoreKey (a ++ "," ++ b)).ignoredErrors =
      (p.insert ignoreKey a).ignoredErrors ++ (p.insert ignoreKey b).ignoredErrors) ∧
    (∀ entry ∈ p.ignoredErrors, IsEntry entry) ∧
    (p.insert ignoreKey (",".intercalate p.ignoredErrors)).ignoredErrors = p.ignoredErrors ∧
    ∀ error, p.ignores error ↔
      error ≠ "" ∧ ∃ list pieces, p.get? ignoreKey = some list ∧ Text.Pieces ',' list pieces ∧
        ∃ piece ∈ pieces, Text.asciiUpper (Text.trim piece) = error := by
  refine ⟨?_, isEntry_of_mem_ignoredErrors p, ?_, ?_⟩
  · intro a b
    rw [ignoredErrors_insert, ignoredErrors_insert, ignoredErrors_insert, errorEntries_append]
  · rw [ignoredErrors_insert]
    exact errorEntries_intercalate (isEntry_of_mem_ignoredErrors p)
  · intro error
    simp only [ignores_iff, mem_errorEntries]
    constructor
    · rintro ⟨list, hlist, hne, hpiece⟩
      exact ⟨hne, list, _, hlist, Text.split_eq_iff.mp rfl, hpiece⟩
    · rintro ⟨hne, list, pieces, hlist, hpieces, hpiece⟩
      rw [← Text.split_eq_iff.mpr hpieces] at hpiece
      exact ⟨list, hlist, hne, hpiece⟩

/-- Blanks outside ASCII, letters outside ASCII and empty pieces in one list. -/
theorem ignored_errors_of_untidy_list :
    let p := empty.insert ignoreKey " postgresql_uppercase_tables\u3000,, \t ,straße,"
    "STRAßE" ∈ p.ignoredErrors ∧ IsEntry "STRAßE" ∧ p.ignores "STRAßE" ∧ ¬ p.ignores "straße" ∧ ¬ p.ignores "" ∧
      (p.insert ignoreKey (",".intercalate p.ignoredErrors)).ignoredErrors =
        ["POSTGRESQL_UPPERCASE_TABLES", "STRAßE"] := by
  intro p
  have hentries : p.ignoredErrors = ["POSTGRESQL_UPPERCASE_TABLES", "STRAßE"] := by decide +kernel
  obtain ⟨-, hnormal, hagain, hiff⟩ := ignored_errors_normalise p
  have hmem : "STRAßE" ∈ p.ignoredErrors := by
    rw [hentries]
    decide
  refine ⟨hmem, hnormal _ hmem, ?_, ?_, ?_, hagain.trans hentries⟩
  · rw [ignores, hentries]
    decide
  · rw [ignores, hentries]
    decide
  · rw [hiff]
    exact fun h => h.1 rfl

end Pushdown.Properties
