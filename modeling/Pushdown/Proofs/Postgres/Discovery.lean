import Pushdown.Postgres.Adapter
import Pushdown.Proofs.Postgres.Folding

/-!
# `Proofs.Postgres.Discovery` — a catalogue and the snapshot that is made of it

Only the filter can refuse a table. What is not refused is exposed or passed over, so that a snapshot is a filter
and a map of its catalogue. Names are folded on the way, and folding alone is not injective: `foo` and `FOO` both
become `FOO`. It is the filter that keeps them apart, because it never lets both through.

## Contents

* `exposedColumn`, `exposedTable` — what a column and a table become.
* `discover_eq_ok_iff` — what a catalogue becomes.
* `table?_of_mem` — a table is found under its name if names are different.
* `Adapter.discovery_keeps_tables_apart` — no two remote tables become one.
-/

namespace Pushdown

/-! ## What a table becomes -/

/-- A column as it is exposed. -/
def exposedColumn (folding : CaseFolding) (c : RemoteColumn) : ColumnMetadata where
  name := folding.foldColumn c.name
  notes := ColumnNotes.text ⟨c.type.code, c.type.name⟩
  type := c.type.postgresOwn?.getD c.type.standard
  nullable := c.nullable
  comment := c.comment

/-- A table as it is exposed. -/
def exposedTable (folding : CaseFolding) (t : RemoteTable) : TableMetadata where
  name := folding.foldTable t.name
  columns := t.columns.map (exposedColumn folding)
  comment := t.comment

section Tables

variable {ε : Type} (folding : CaseFolding)

/-- Discovering a column is never refused. -/
theorem result_discoverColumn (c : RemoteColumn) :
    (discoverColumn folding c : Traced ε ColumnMetadata).result = .ok (exposedColumn folding c) := by
  have htype : (c.type.postgres : Traced ε CanonicalType).result =
      .ok (c.type.postgresOwn?.getD c.type.standard) := by
    unfold RemoteType.postgres
    cases c.type.postgresOwn? <;> simp
  rw [discoverColumn, Traced.result_bind, htype]
  rfl

theorem result_discoverColumns (cs : List RemoteColumn) :
    (discoverColumns folding cs : Traced ε (List ColumnMetadata)).result =
      .ok (cs.map (exposedColumn folding)) := by
  induction cs with
  | nil => rfl
  | cons c cs ih =>
    rw [discoverColumns, Traced.result_bind, result_discoverColumn, Outcome.ok_bind, Traced.result_bind, ih]
    rfl

/-- Nothing in a table can be refused. -/
theorem result_discoverTable (t : RemoteTable) :
    (discoverTable folding t : Traced ε TableMetadata).result = .ok (exposedTable folding t) := by
  rw [discoverTable, Traced.result_bind, result_discoverColumns]
  rfl

end Tables

/-! ## What a catalogue becomes -/

/-- The filter lets the table through. -/
def TableFilter.exposes (filter : TableFilter) (t : RemoteTable) : Bool :=
  match (filter.includes t.name).result with
  | .ok included => included
  | .error _ => false

variable {filter : TableFilter}

theorem exposes_iff {t : RemoteTable} : filter.exposes t ↔ (filter.includes t.name).result = .ok true := by
  unfold TableFilter.exposes
  split
  next included h => simp [h]
  next e h => simp [h]

/-- **A catalogue is read exactly if no table of it is refused, and then its tables are those that are exposed, in
order.** Induction along the catalogue, with the three outcomes that the filter has for a name. -/
theorem discoverTables_eq_ok_iff {catalogue : List RemoteTable} {tables : List TableMetadata} :
    (discoverTables filter catalogue).result = .ok tables ↔
      (∀ t ∈ catalogue, ∃ included, (filter.includes t.name).result = .ok included) ∧
      tables = (catalogue.filter filter.exposes).map (exposedTable filter.folding) := by
  induction catalogue generalizing tables with
  | nil =>
    simp [discoverTables, eq_comm]
  | cons t ts ih =>
    rw [discoverTables, Traced.result_bind, List.forall_mem_cons, List.filter_cons, TableFilter.exposes]
    cases hincludes : (filter.includes t.name).result with
    | error e => simp
    | ok included =>
      cases included with
      | false => simpa using ih
      | true =>
        simp only [Outcome.ok_bind, if_true, Traced.result_bind, result_discoverTable,
          Outcome.bind_eq_ok_iff, ih, Traced.result_pure_eq_ok_iff]
        constructor
        · rintro ⟨rest, ⟨hall, rfl⟩, rfl⟩
          exact ⟨⟨⟨true, rfl⟩, hall⟩, rfl⟩
        · rintro ⟨⟨-, hall⟩, rfl⟩
          exact ⟨_, ⟨hall, rfl⟩, rfl⟩

/-- **A snapshot is a filter and a map of its catalogue.** It exists if the filter refuses no table. -/
theorem discover_eq_ok_iff {catalogue : List RemoteTable} {snapshot : Snapshot} :
    (discover filter catalogue).result = .ok snapshot ↔
      (∀ t ∈ catalogue, ∃ included, (filter.includes t.name).result = .ok included) ∧
      snapshot.tables = (catalogue.filter filter.exposes).map (exposedTable filter.folding) := by
  rw [← discoverTables_eq_ok_iff, discover, Traced.result_bind_eq_ok_iff]
  constructor
  · rintro ⟨tables, htables, h⟩
    cases h
    exact htables
  · intro htables
    exact ⟨_, htables, rfl⟩

/-! ## Names -/

/-- A table is found under its name if no other has it. -/
theorem table?_of_mem {s : Snapshot} (h : s.names.Nodup) {entry : TableMetadata} (hmem : entry ∈ s.tables) :
    s.table? entry.name = some entry := by
  unfold Snapshot.names at h
  unfold Snapshot.table?
  generalize s.tables = tables at h hmem ⊢
  induction tables with
  | nil => cases hmem
  | cons first rest ih =>
    rw [List.map_cons, List.nodup_cons] at h
    rcases List.mem_cons.mp hmem with rfl | hmem
    · simp
    · have hne : (first.name == entry.name) = false := by
        rw [beq_eq_false_iff_ne]
        intro heq
        exact h.1 (heq ▸ List.mem_map_of_mem hmem)
      rw [List.find?_cons, hne]
      exact ih h.2 hmem

/-- Remote tables with different names are exposed under different names. -/
theorem nodup_names_of_discover {catalogue : List RemoteTable} {snapshot : Snapshot}
    (hdistinct : (catalogue.map (·.name)).Nodup)
    (h : snapshot.tables = (catalogue.filter filter.exposes).map (exposedTable filter.folding)) :
    snapshot.names.Nodup := by
  have hnames : snapshot.names =
      ((catalogue.filter filter.exposes).map (·.name)).map filter.folding.foldTable := by
    rw [Snapshot.names, h, List.map_map, List.map_map]
    rfl
  have hremote : ((catalogue.filter filter.exposes).map (·.name)).Nodup :=
    hdistinct.sublist ((List.filter_sublist).map _)
  rw [hnames, List.Nodup, List.pairwise_map]
  refine hremote.imp_of_mem ?_
  intro t u ht hu hne heq
  have hincluded : ∀ name ∈ (catalogue.filter filter.exposes).map (·.name),
      (filter.includes name).result = .ok true := by
    intro name hname
    obtain ⟨r, hr, rfl⟩ := List.mem_map.mp hname
    exact exposes_iff.mp (List.mem_filter.mp hr).2
  exact hne (foldTable_injective_of_includes (hincluded t ht) (hincluded u hu) heq)

/-! ## The adapter -/

/-- **Discovery keeps tables apart.** If the tables of a catalogue have different names and the catalogue is read, the
exposed names are different too, and under the exposed name of each table that is let through stands what was
made of that table. -/
theorem Adapter.discovery_keeps_tables_apart (a : Adapter) {catalogue : List RemoteTable}
    {snapshot : Snapshot} (hdistinct : (catalogue.map (·.name)).Nodup)
    (hread : (a.readMetadata catalogue).result = .ok snapshot) :
    snapshot.names.Nodup ∧
    ∀ t ∈ catalogue, (a.includes t.name).result = .ok true →
      ∃ entry, (discoverTable a.folding t : Traced ConfigError TableMetadata).result = .ok entry ∧
        snapshot.table? (a.folding.foldTable t.name) = some entry := by
  have hdiscover : (discover a.filter catalogue).result = .ok snapshot :=
    Traced.result_mapError_eq_ok_iff.mp hread
  obtain ⟨-, htables⟩ := discover_eq_ok_iff.mp hdiscover
  have hnodup := nodup_names_of_discover hdistinct htables
  refine ⟨hnodup, ?_⟩
  intro t ht hincluded
  have hexposed : a.filter.exposes t := exposes_iff.mpr (Traced.result_mapError_eq_ok_iff.mp hincluded)
  have hentry : exposedTable a.folding t ∈ snapshot.tables := by
    rw [htables]
    exact List.mem_map_of_mem (List.mem_filter.mpr ⟨ht, hexposed⟩)
  exact ⟨exposedTable a.folding t, result_discoverTable a.folding t, table?_of_mem hnodup hentry⟩

/-- Of `foo` and `FOO`, which would share a name, only the first is exposed. -/
theorem Adapter.discovery_of_foo :
    let a : Adapter := { properties := { entries := [] }, filter := ⟨.convertToUpper, true⟩ }
    let table := fun name : String => RemoteTable.mk name [] (some name)
    let catalogue := [table "FOO", table "foo", table "foo \"x\""]
    (catalogue.map (·.name)).Nodup ∧ (a.includes "foo").result.toOption = some true ∧
    ∃ snapshot, (a.readMetadata catalogue).result = .ok snapshot ∧
      snapshot.names = ["FOO", "foo \"x\""] ∧ snapshot.names.Nodup ∧
      ∃ entry, snapshot.table? "FOO" = some entry ∧ entry.comment = some "foo" := by
  intro a table catalogue
  have hdistinct : (catalogue.map (·.name)).Nodup := by decide
  have hincluded : (a.includes "foo").result.toOption = some true := by decide +kernel
  have hread : ∃ snapshot, (a.readMetadata catalogue).result.toOption = some snapshot ∧
      snapshot.names = ["FOO", "foo \"x\""] :=
    ⟨{ tables := [⟨"FOO", [], some "foo"⟩, ⟨"foo \"x\"", [], some "foo \"x\""⟩] }, by decide +kernel, rfl⟩
  obtain ⟨snapshot, hread, hnames⟩ := hread
  obtain ⟨hnodup, hlookup⟩ := discovery_keeps_tables_apart a hdistinct (Outcome.eq_ok_of_toOption hread)
  obtain ⟨entry, hentry, hfound⟩ := hlookup (table "foo") (by simp [catalogue])
    (Outcome.eq_ok_of_toOption hincluded)
  rw [result_discoverTable] at hentry
  cases hentry
  have hfold : a.folding.foldTable "foo" = "FOO" := by decide +kernel
  exact ⟨hdistinct, hincluded, snapshot, Outcome.eq_ok_of_toOption hread, hnames, hnodup, _,
    hfold ▸ hfound, rfl⟩

end Pushdown
