import Mathlib.Data.List.Nodup
import Pushdown.Proofs.Postgres.Discovery
import Pushdown.Proofs.Text.RoundTrip

/-!
# `Proofs.Postgres.Columns` — whether an exposed column can be reached again

No filter stands in front of columns: the name of every column is taken to upper case as a whole, where that of a table
is only if it is a name without quotes, and SQL takes it back to lower case. A name without upper-case letters comes
back from that if and only if each of its characters does. Columns whose names come back keep apart, while others may
fall together with them.

## Contents

* `written_foldColumn` — the name that SQL writes for an exposed column.
* `eq_of_foldColumn_eq` — names that come back are exposed under different names.
* `CaseFolding.exposed_column_reached_iff` — the exposed columns that SQL reaches.
-/

namespace Pushdown

variable {folding : CaseFolding} {c d : String}

/-- Every character of the name comes back from the folding. -/
def CaseFolding.keepsColumn (folding : CaseFolding) (c : String) : Bool :=
  match folding with
  | .convertToUpper => Text.comesBack [] c.toList
  | .preserveCase => true

/-- **The name that SQL writes for an exposed column.** It is the remote one, unless a character is lost on the way. -/
theorem written_foldColumn (h : Text.hasUppercase c = false) :
    folding.written (folding.foldColumn c) = c ↔ folding.keepsColumn c := by
  cases folding with
  | convertToUpper => exact Text.lower_upper_eq_self_iff h
  | preserveCase => exact iff_of_true rfl rfl

/-- Columns that come back and are exposed under one name are one column. -/
theorem eq_of_foldColumn_eq (hc : Text.hasUppercase c = false) (hd : Text.hasUppercase d = false)
    (hkeepc : folding.keepsColumn c) (hkeepd : folding.keepsColumn d)
    (h : folding.foldColumn c = folding.foldColumn d) : c = d := by
  rw [← (written_foldColumn hc).mpr hkeepc, h, (written_foldColumn hd).mpr hkeepd]

/-- Columns of a table keep apart if their names come back. -/
theorem nodup_exposedColumns {columns : List RemoteColumn}
    (hkeep : ∀ c ∈ columns, Text.hasUppercase c.name = false ∧ folding.keepsColumn c.name)
    (h : (columns.map (·.name)).Nodup) : ((columns.map (exposedColumn folding)).map (·.name)).Nodup := by
  rw [List.map_map]
  refine List.Nodup.map_on ?_ (List.Nodup.of_map _ h)
  intro c hc d hd heq
  have hname : c.name = d.name := by
    apply eq_of_foldColumn_eq (hkeep c hc).1 (hkeep d hd).1 (hkeep c hc).2 (hkeep d hd).2
    exact heq
  exact List.inj_on_of_nodup_map h hc hd hname

/-- **An exposed column is reached exactly if every character of its name comes back.** For a column whose name has no
upper-case letters, SQL writes one quoted name. It reads as the remote name if names are not folded, and otherwise if
and only if no character of the name is stray and each small sigma has the form of its place. Such columns of one
table are exposed under different names if the remote ones are different. -/
theorem CaseFolding.exposed_column_reached_iff {ε : Type} (folding : CaseFolding) :
    (∀ c, Text.hasUppercase c = false →
      ∃ name, Sql.lex (folding.quote (folding.foldColumn c)).lexeme.chars = some [.name name] ∧
        (name = c ↔ folding.keepsColumn c)) ∧
    ∀ t : RemoteTable, (∀ c ∈ t.columns, Text.hasUppercase c.name = false ∧ folding.keepsColumn c.name) →
      (t.columns.map (·.name)).Nodup →
      ∃ table, (discoverTable folding t : Traced ε TableMetadata).result = .ok table ∧
        (table.columns.map (·.name)).Nodup := by
  constructor
  · intro c hc
    exact ⟨_, lex_quote folding _, written_foldColumn hc⟩
  · intro t hkeep hnodup
    exact ⟨_, result_discoverTable folding t, nodup_exposedColumns hkeep hnodup⟩

/-- Both small sigmas come back from their places, and with them a letter outside the basic plane. -/
theorem CaseFolding.sigma_columns_reached :
    let folding := CaseFolding.convertToUpper
    let column := fun name : String => ({ name, type := { code := 12, name := "varchar" } } : RemoteColumn)
    let t : RemoteTable := { name := "t", columns := [column "σοφός ή \"𐐨\"", column "σοφός", column "id_1"] }
    (∀ c ∈ t.columns, Text.hasUppercase c.name = false ∧ folding.keepsColumn c.name) ∧
      (t.columns.map (·.name)).Nodup ∧
      Sql.lex (folding.quote (folding.foldColumn "σοφός ή \"𐐨\"")).lexeme.chars =
        some [.name "σοφός ή \"𐐨\""] ∧
      ∃ table, (discoverTable folding t : Traced Failure TableMetadata).result = .ok table ∧
        (table.columns.map (·.name)).Nodup := by
  intro folding column t
  have hkeep : ∀ c ∈ t.columns, Text.hasUppercase c.name = false ∧ folding.keepsColumn c.name := by
    decide +kernel
  have hnodup : (t.columns.map (·.name)).Nodup := by decide +kernel
  obtain ⟨hreached, happart⟩ := exposed_column_reached_iff folding
  obtain ⟨name, hlex, hiff⟩ := hreached "σοφός ή \"𐐨\"" (by decide +kernel)
  rw [hiff.mpr (by decide +kernel)] at hlex
  exact ⟨hkeep, hnodup, hlex, happart t hkeep hnodup⟩

/-- SQL for a column named by a sharp s names another column, and both are exposed under the same name. -/
theorem CaseFolding.sharp_s_column_not_reached :
    let folding := CaseFolding.convertToUpper
    Text.hasUppercase "ß" = false ∧ Text.hasUppercase "ss" = false ∧
      Sql.lex (folding.quote (folding.foldColumn "ß")).lexeme.chars = some [.name "ss"] ∧
      folding.foldColumn "ß" = folding.foldColumn "ss" ∧ "ß" ≠ "ss" := by
  intro folding
  have hwritten : folding.written (folding.foldColumn "ß") = "ss" := by decide +kernel
  exact ⟨by decide +kernel, by decide +kernel, by rw [lex_quote, hwritten], by decide +kernel, by decide⟩

end Pushdown
