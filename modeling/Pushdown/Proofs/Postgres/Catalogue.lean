import Mathlib.Data.List.Forall2
import Pushdown.Proofs.Postgres.Discovery

/-!
# `Proofs.Postgres.Catalogue` — what reading a catalogue gives, refuses and reports

A catalogue is read table by table, and three things happen on the way: a table is exposed, it is passed over and
reported, or it is refused and ends the reading. Reading one catalogue behind another is reading both, as far as
results and reports go, so that all statements follow from what is done with one table.

## Contents

* `TableFilter.includes_cases` — what can be done with one table.
* `TableExposed` — what a table that is exposed has to become.
* `discoverTables_append` — catalogues behind one another.
* `discover_eq_error_of_first` — the refusal is that of the first table that is refused.
* `reports_discoverTables`, `events_discover` — the reports.
* `Adapter.reading_filters_and_maps` — all of it together.
-/

namespace Pushdown

/-! ## One table -/

/-- A table is exposed without a report, passed over with one, or refused by its name. -/
theorem TableFilter.includes_cases (filter : TableFilter) (table : String) :
    filter.includes table = ⟨[], .ok true⟩ ∨ filter.includes table = ⟨[.tableIgnored table], .ok false⟩ ∨
      filter.includes table = ⟨[], .error (.uppercaseTable table filter.folding.name switch)⟩ := by
  unfold TableFilter.includes
  by_cases hreachable : !Text.hasUppercase table || isUnquotedName table
  · rw [if_pos hreachable]
    exact .inl rfl
  · rw [if_neg hreachable]
    cases filter.folding with
    | preserveCase => exact .inl rfl
    | convertToUpper =>
      by_cases hignores : filter.ignoresUppercase
      · exact .inr (.inl (if_pos hignores))
      · exact .inr (.inr (if_neg hignores))

/-- The filter passes the table over. -/
def TableFilter.skips (filter : TableFilter) (t : RemoteTable) : Bool :=
  match (filter.includes t.name).result with
  | .ok included => !included
  | .error _ => false

/-- What a column of the catalogue has to become. -/
structure ColumnExposed (folding : CaseFolding) (c : RemoteColumn) (entry : ColumnMetadata) : Prop where
  name : entry.name = folding.foldColumn c.name
  type : (c.type.postgres : Traced ConfigError CanonicalType).result = .ok entry.type
  nullable : entry.nullable = c.nullable
  comment : entry.comment = c.comment

/-- What a table of the catalogue has to become: its columns stay in order, and none is lost or added. -/
structure TableExposed (folding : CaseFolding) (t : RemoteTable) (entry : TableMetadata) : Prop where
  name : entry.name = folding.foldTable t.name
  comment : entry.comment = t.comment
  columns : List.Forall₂ (ColumnExposed folding) t.columns entry.columns

section Tables

variable (folding : CaseFolding)

/-- An exposed column has its name folded and its type mapped; the rest of it stays. -/
theorem columnExposed_exposedColumn (c : RemoteColumn) : ColumnExposed folding c (exposedColumn folding c) where
  name := rfl
  type := by
    unfold RemoteType.postgres exposedColumn
    cases c.type.postgresOwn? with
    | some mapped => rfl
    | none => rfl
  nullable := rfl
  comment := rfl

theorem tableExposed_exposedTable (t : RemoteTable) : TableExposed folding t (exposedTable folding t) where
  name := rfl
  comment := rfl
  columns := List.forall₂_map_right_iff.mpr (List.forall₂_same.mpr fun c _ => columnExposed_exposedColumn folding c)

end Tables

/-! ## Catalogues behind one another -/

section Catalogues

variable {filter : TableFilter}

/-- **Reading one catalogue behind another is reading both**, with the reports of both. -/
theorem discoverTables_append (xs ys : List RemoteTable) :
    discoverTables filter (xs ++ ys) =
      (discoverTables filter xs >>= fun before => discoverTables filter ys >>= fun after =>
        pure (before ++ after)) := by
  induction xs with
  | nil =>
    rw [discoverTables, Traced.pure_bind]
    exact (Traced.bind_pure _).symm
  | cons t xs ih =>
    rw [List.cons_append, discoverTables, discoverTables, Traced.bind_assoc]
    congr 1
    funext included
    cases included with
    | false => exact ih
    | true =>
      show (discoverTable filter.folding t >>= _) = (discoverTable filter.folding t >>= _) >>= _
      rw [Traced.bind_assoc, ih]
      simp only [Traced.bind_assoc, Traced.pure_bind]
      rfl

/-- The first table that is refused ends the reading. -/
theorem discover_eq_error_of_first {before after : List RemoteTable} {t : RemoteTable} {e : ConfigError}
    (hbefore : ∀ b ∈ before, ∃ included, (filter.includes b.name).result = .ok included)
    (ht : (filter.includes t.name).result = .error e) :
    (discover filter (before ++ t :: after)).result = .error e := by
  have hread := discoverTables_eq_ok_iff.mpr ⟨hbefore, rfl⟩
  have hstop : (discoverTables filter (t :: after)).result = .error e := by
    rw [discoverTables, Traced.result_bind, ht]
    rfl
  rw [discover, Traced.result_bind, discoverTables_append, Traced.result_bind, hread, Outcome.ok_bind,
    Traced.result_bind, hstop]
  rfl

/-- A snapshot of two catalogues holds the tables of the first and then those of the second. -/
theorem result_discover_append (xs ys : List RemoteTable) :
    (discover filter (xs ++ ys)).result =
      (discover filter xs).result.bind fun before => (discover filter ys).result.bind fun after =>
        .ok { tables := before.tables ++ after.tables } := by
  unfold discover
  simp only [Traced.result_bind, discoverTables_append]
  cases (discoverTables filter xs).result with
  | error e => rfl
  | ok before =>
    cases (discoverTables filter ys).result with
    | error e => rfl
    | ok after => rfl

end Catalogues

/-! ## Reports -/

namespace Event

/-- The table that the event says is left out. -/
def ignored? : Event → Option String
  | .tableIgnored table => some table
  | _ => none

/-- The numbers of tables that the event gives: those of the catalogue, and those that are exposed. -/
def counted? : Event → Option (Nat × Nat)
  | .metadataRead remote exposed => some (remote, exposed)
  | _ => none

/-- The event is about a single type. -/
def isTypeMapped : Event → Bool
  | .typeMapped .. => true
  | _ => false

end Event

section Reports

variable {ε : Type} (folding : CaseFolding)

/-- All that is reported of columns is how their types were mapped. -/
theorem events_discoverColumns (cs : List RemoteColumn) :
    ∀ e ∈ (discoverColumns folding cs : Traced ε (List ColumnMetadata)).events, e.isTypeMapped := by
  induction cs with
  | nil => intro e he; cases he
  | cons c cs ih =>
    have hcolumn : ∀ e ∈ (discoverColumn folding c : Traced ε ColumnMetadata).events, e.isTypeMapped := by
      intro e he
      unfold discoverColumn RemoteType.postgres at he
      cases hown : c.type.postgresOwn? with
      | none => rw [hown] at he; cases he
      | some mapped =>
        rw [hown] at he
        cases he with
        | head => rfl
        | tail _ he => cases he
    intro e he
    rw [discoverColumns, Traced.events_bind_of_ok (result_discoverColumn folding c),
      Traced.events_bind_of_ok (result_discoverColumns folding cs), List.mem_append, List.mem_append] at he
    rcases he with he | he | he
    · exact hcolumn e he
    · exact ih e he
    · cases he

/-- Inside a table, only types are reported. -/
theorem events_discoverTable (t : RemoteTable) :
    ∀ e ∈ (discoverTable folding t : Traced ε TableMetadata).events, e.isTypeMapped := by
  intro e he
  rw [discoverTable, Traced.events_bind_of_ok (result_discoverColumns folding t.columns), List.mem_append] at he
  rcases he with he | he
  · exact events_discoverColumns folding t.columns e he
  · cases he

/-- Reports about types name no table and count none. -/
theorem silent_of_isTypeMapped {events : List Event} (h : ∀ e ∈ events, e.isTypeMapped) :
    events.filterMap Event.ignored? = [] ∧ events.filterMap Event.counted? = [] := by
  have hsilent : ∀ e ∈ events, e.ignored? = none ∧ e.counted? = none := by
    intro e he
    cases e with
    | typeMapped typeName typeCode mapped => exact ⟨rfl, rfl⟩
    | _ => cases h _ he
  rw [List.filterMap_eq_nil_iff, List.filterMap_eq_nil_iff]
  exact ⟨fun e he => (hsilent e he).1, fun e he => (hsilent e he).2⟩

end Reports

section Reading

variable {filter : TableFilter} {catalogue : List RemoteTable}

/-- **The tables that are reported as left out are those that are passed over**, each once and in order. -/
theorem reports_discoverTables {tables : List TableMetadata}
    (h : (discoverTables filter catalogue).result = .ok tables) :
    (discoverTables filter catalogue).events.filterMap Event.ignored? =
        (catalogue.filter filter.skips).map (·.name) ∧
      (discoverTables filter catalogue).events.filterMap Event.counted? = [] := by
  induction catalogue generalizing tables with
  | nil => exact ⟨rfl, rfl⟩
  | cons t ts ih =>
    rcases filter.includes_cases t.name with hin | hin | hin
    · -- exposed: what is reported inside the table does not matter
      have hstep : discoverTables filter (t :: ts) = (discoverTable filter.folding t >>= fun table =>
          discoverTables filter ts >>= fun tables => pure (table :: tables)) := by
        rw [discoverTables, hin]
        rfl
      have hskips : filter.skips t = false := by rw [TableFilter.skips, hin]; rfl
      rw [hstep, Traced.result_bind, result_discoverTable, Outcome.ok_bind, Traced.result_bind_eq_ok_iff] at h
      obtain ⟨rest, hrest, -⟩ := h
      obtain ⟨hignored, hcounted⟩ := ih hrest
      obtain ⟨htable, htable'⟩ := silent_of_isTypeMapped (events_discoverTable (ε := ConfigError) filter.folding t)
      rw [hstep, Traced.events_bind_of_ok (result_discoverTable filter.folding t),
        Traced.events_bind_of_ok hrest, List.filter_cons_of_neg (by rw [hskips]; decide)]
      simp only [List.filterMap_append, htable, htable', hignored, hcounted]
      exact ⟨List.append_nil _, rfl⟩
    · -- passed over, with one report
      have hstep : discoverTables filter (t :: ts) =
          ⟨.tableIgnored t.name :: (discoverTables filter ts).events, (discoverTables filter ts).result⟩ := by
        rw [discoverTables, hin]
        rfl
      have hskips : filter.skips t = true := by rw [TableFilter.skips, hin]; rfl
      rw [hstep] at h
      obtain ⟨hignored, hcounted⟩ := ih h
      rw [hstep, List.filter_cons_of_pos hskips, List.map_cons, ← hignored]
      exact ⟨rfl, hcounted⟩
    · -- refused: then nothing is read
      rw [discoverTables, hin] at h
      cases h

/-- Tables of a catalogue that is read are exposed or passed over. -/
theorem length_exposed_add_skipped
    (h : ∀ t ∈ catalogue, ∃ included, (filter.includes t.name).result = .ok included) :
    (catalogue.filter filter.exposes).length + (catalogue.filter filter.skips).length = catalogue.length := by
  have hskips : catalogue.filter filter.skips = catalogue.filter fun t => !filter.exposes t := by
    refine List.filter_congr fun t ht => ?_
    obtain ⟨included, hincluded⟩ := h t ht
    rw [TableFilter.skips, TableFilter.exposes, hincluded]
  rw [hskips, ← List.length_eq_length_filter_add]

/-- The report of a catalogue comes last, behind those of its tables. -/
theorem events_discover {snapshot : Snapshot} (h : (discover filter catalogue).result = .ok snapshot) :
    (discover filter catalogue).events =
      (discoverTables filter catalogue).events ++ [.metadataRead catalogue.length snapshot.tables.length] := by
  rw [discover, Traced.result_bind_eq_ok_iff] at h
  obtain ⟨tables, htables, hsnapshot⟩ := h
  cases hsnapshot
  rw [discover, Traced.events_bind_of_ok htables]
  rfl

end Reading

/-! ## The adapter -/

namespace Adapter

variable (a : Adapter) {catalogue : List RemoteTable}

/-- A table is refused by the adapter as it is by its filter. -/
theorem includes_eq_error_iff {table : String} {f : Failure} :
    (a.includes table).result = .error f ↔
      ∃ e, (a.filter.includes table).result = .error e ∧ f = e.toFailure := by
  show (a.filter.includes table).result.mapError _ = _ ↔ _
  cases (a.filter.includes table).result with
  | ok included => exact ⟨nofun, nofun⟩
  | error e =>
    constructor
    · rintro ⟨⟩
      exact ⟨e, rfl, rfl⟩
    · rintro ⟨_, ⟨⟩, rfl⟩
      rfl

/-- A table that is not refused is let through or passed over. -/
theorem exists_included_of_not_refused {table : String}
    (h : ¬ ∃ f, (a.includes table).result = .error f) :
    ∃ included, (a.filter.includes table).result = .ok included := by
  cases hresult : (a.filter.includes table).result with
  | ok included => exact ⟨included, rfl⟩
  | error e => exact absurd ⟨_, (a.includes_eq_error_iff).mpr ⟨e, hresult, rfl⟩⟩ h

/-- **The first table that is refused is the one that is named.** -/
theorem readMetadata_eq_error_of_first {before after : List RemoteTable} {t : RemoteTable}
    (hbefore : ∀ b ∈ before, ¬ ∃ f, (a.includes b.name).result = .error f)
    (ht : ∃ f, (a.includes t.name).result = .error f) :
    ∃ f, (a.readMetadata (before ++ t :: after)).result = .error f ∧ (a.includes t.name).result = .error f ∧
      f.code.text = "PGVS-3005" ∧ f.message = "Table '" ++ t.name ++ "' cannot be used in the virtual schema" ∧
      f.context = some (.table t.name a.folding.name) := by
  obtain ⟨f, hf⟩ := ht
  obtain ⟨e, he, rfl⟩ := a.includes_eq_error_iff.mp hf
  have hread : (discover a.filter (before ++ t :: after)).result = .error e :=
    discover_eq_error_of_first (fun b hb => a.exists_included_of_not_refused (hbefore b hb)) he
  refine ⟨e.toFailure, ?_, hf, ?_⟩
  · show (discover a.filter _).result.mapError _ = _
    rw [hread]
    rfl
  · rcases a.filter.includes_cases t.name with hin | hin | hin
    · rw [hin] at he; cases he
    · rw [hin] at he; cases he
    · rw [hin] at he
      cases he
      exact ⟨show Code.uppercaseTable.text = "PGVS-3005" by decide, rfl, rfl⟩

/-- A catalogue is refused if and only if one of its tables is. -/
theorem exists_readMetadata_error_iff (catalogue : List RemoteTable) :
    (∃ f, (a.readMetadata catalogue).result = .error f) ↔
      ∃ t ∈ catalogue, ∃ f, (a.includes t.name).result = .error f := by
  constructor
  · rintro ⟨f, hf⟩
    by_contra hnone
    have hall : ∀ t ∈ catalogue, ∃ included, (a.filter.includes t.name).result = .ok included :=
      fun t ht => a.exists_included_of_not_refused fun hrefused => hnone ⟨t, ht, hrefused⟩
    have hread := discover_eq_ok_iff.mpr ⟨hall, rfl⟩
    have hok := Traced.result_mapError_eq_ok_iff (f := ConfigError.toFailure).mpr hread
    cases hf.symm.trans hok
  · rintro ⟨t, ht, hrefused⟩
    cases hread : (a.readMetadata catalogue).result with
    | error f => exact ⟨f, rfl⟩
    | ok snapshot =>
      obtain ⟨hall, -⟩ := discover_eq_ok_iff.mp (Traced.result_mapError_eq_ok_iff.mp hread)
      obtain ⟨f, hf⟩ := hrefused
      obtain ⟨e, he, -⟩ := a.includes_eq_error_iff.mp hf
      obtain ⟨included, hincluded⟩ := hall t ht
      cases he.symm.trans hincluded

/-- **Reading a catalogue is a filter and a map, and it fails as a whole.** It is refused if and only if one of its
tables is, and then for the first such table. Otherwise the snapshot has, in order, one entry for each table that is
let through, with its name folded and with an entry for each of its columns; the tables that are reported as left out
are those that are passed over, in order, and the report at the end counts the tables of the catalogue and those that
are exposed, which are all the others. What is read of two catalogues behind one another is what is read of the first
and what is read of the second. -/
theorem reading_filters_and_maps (catalogue : List RemoteTable) :
    let refused := fun t : RemoteTable => ∃ f, (a.includes t.name).result = .error f
    ((∃ f, (a.readMetadata catalogue).result = .error f) ↔ ∃ t ∈ catalogue, refused t) ∧
    (∀ before t after, catalogue = before ++ t :: after → (∀ b ∈ before, ¬ refused b) → refused t →
      ∃ f, (a.readMetadata catalogue).result = .error f ∧ (a.includes t.name).result = .error f ∧
        f.code.text = "PGVS-3005" ∧
        f.message = "Table '" ++ t.name ++ "' cannot be used in the virtual schema" ∧
        f.context = some (.table t.name a.folding.name)) ∧
    (∀ snapshot, (a.readMetadata catalogue).result = .ok snapshot →
      List.Forall₂ (TableExposed a.folding) (catalogue.filter a.filter.exposes) snapshot.tables ∧
      ∃ remote exposed,
        (a.readMetadata catalogue).events.filterMap Event.counted? = [(remote, exposed)] ∧
        remote = catalogue.length ∧ exposed = snapshot.tables.length ∧
        (a.readMetadata catalogue).events.filterMap Event.ignored? =
          (catalogue.filter a.filter.skips).map (·.name) ∧
        exposed + ((a.readMetadata catalogue).events.filterMap Event.ignored?).length = remote) ∧
    ∀ more, (a.readMetadata (catalogue ++ more)).result =
      (a.readMetadata catalogue).result.bind fun before => (a.readMetadata more).result.bind fun after =>
        .ok { tables := before.tables ++ after.tables } := by
  intro refused
  refine ⟨a.exists_readMetadata_error_iff catalogue, ?_, ?_, ?_⟩
  · rintro before t after rfl hbefore ht
    exact a.readMetadata_eq_error_of_first hbefore ht
  · intro snapshot hread
    have hdiscover := Traced.result_mapError_eq_ok_iff.mp hread
    obtain ⟨hall, htables⟩ := discover_eq_ok_iff.mp hdiscover
    obtain ⟨hignored, hcounted⟩ := reports_discoverTables (discoverTables_eq_ok_iff.mpr ⟨hall, htables⟩)
    have hevents : (a.readMetadata catalogue).events = _ := events_discover hdiscover
    have hlength : snapshot.tables.length = (catalogue.filter a.filter.exposes).length := by
      rw [htables, List.length_map]
    refine ⟨?_, _, _, ?_, rfl, rfl, ?_, ?_⟩
    · rw [htables, List.forall₂_map_right_iff, List.forall₂_same]
      exact fun t _ => tableExposed_exposedTable a.folding t
    · rw [hevents, List.filterMap_append, hcounted]
      rfl
    · rw [hevents, List.filterMap_append, hignored]
      exact List.append_nil _
    · rw [hevents, List.filterMap_append, hignored, hlength, ← length_exposed_add_skipped hall]
      simp [Event.ignored?]
  · intro more
    show (discover a.filter (catalogue ++ more)).result.mapError _ = _
    rw [result_discover_append]
    show _ = ((discover a.filter catalogue).result.mapError _).bind fun before =>
      ((discover a.filter more).result.mapError _).bind fun after => _
    cases (discover a.filter catalogue).result with
    | error e => rfl
    | ok before =>
      cases (discover a.filter more).result with
      | error e => rfl
      | ok after => rfl

/-- Two tables that could not be reached stand between two that can: they are left out if that is wanted, and
otherwise the first of them is refused. Every table has a column whose values arrive as text and a decimal one. -/
theorem reading_of_mixed_catalogue :
    let payload : RemoteColumn := { name := "Payload", type := { code := 1111, name := "jsonb" }, nullable := false }
    let price : RemoteColumn :=
      { name := "price", type := { code := 2, name := "numeric", size := 10, scale := 2 } }
    let table := fun name : String => RemoteTable.mk name [payload, price] (some name)
    let catalogue := [table "clicks", table "FooBar", table "BAZ", table "straße"]
    let lenient : Adapter := { properties := { entries := [] }, filter := ⟨.convertToUpper, true⟩ }
    let strict : Adapter := { properties := { entries := [] }, filter := ⟨.convertToUpper, false⟩ }
    (∃ snapshot, (lenient.readMetadata catalogue).result = .ok snapshot ∧
      snapshot.names = ["CLICKS", "straße"] ∧
      (∀ entry ∈ snapshot.tables, entry.columns.map (fun c => (c.name, c.type, c.nullable)) =
        [("PAYLOAD", .maxCharacter .utf8, false), ("PRICE", .exactNumeric 10 2, true)]) ∧
      List.Forall₂ (TableExposed .convertToUpper) [table "clicks", table "straße"] snapshot.tables ∧
      (lenient.readMetadata catalogue).events.filterMap Event.ignored? = ["FooBar", "BAZ"] ∧
      (lenient.readMetadata catalogue).events.filterMap Event.counted? = [(4, 2)]) ∧
    ∃ f, (strict.readMetadata catalogue).result = .error f ∧ f.code.text = "PGVS-3005" ∧
      f.context = some (.table "FooBar" "CONVERT_TO_UPPER") := by
  intro payload price table catalogue lenient strict
  have hexposed : catalogue.filter lenient.filter.exposes = [table "clicks", table "straße"] := by decide +kernel
  have hskipped : (catalogue.filter lenient.filter.skips).map (·.name) = ["FooBar", "BAZ"] := by decide +kernel
  constructor
  · obtain ⟨-, -, hsnapshot, -⟩ := reading_filters_and_maps lenient catalogue
    have hread : ∃ snapshot, (lenient.readMetadata catalogue).result.toOption = some snapshot ∧
        snapshot.names = ["CLICKS", "straße"] ∧
        ∀ entry ∈ snapshot.tables, entry.columns.map (fun c => (c.name, c.type, c.nullable)) =
          [("PAYLOAD", .maxCharacter .utf8, false), ("PRICE", .exactNumeric 10 2, true)] :=
      ⟨{ tables := [exposedTable .convertToUpper (table "clicks"), exposedTable .convertToUpper (table "straße")] },
        by decide +kernel, by decide +kernel, by decide +kernel⟩
    obtain ⟨snapshot, hread, hnames, hcolumns⟩ := hread
    have hresult := Outcome.eq_ok_of_toOption hread
    obtain ⟨htables, remote, exposed, hcounted, hremote, hlength, hignored, -⟩ := hsnapshot snapshot hresult
    have hnumber : exposed = 2 := by
      calc exposed = snapshot.tables.length := hlength
        _ = snapshot.names.length := (List.length_map TableMetadata.name).symm
        _ = 2 := congrArg List.length hnames
    rw [hexposed] at htables
    refine ⟨snapshot, hresult, hnames, hcolumns, htables, hignored.trans hskipped, ?_⟩
    rw [hcounted, hremote, hnumber]
    rfl
  · obtain ⟨-, hfirst, -⟩ := reading_filters_and_maps strict catalogue
    have hrefused : ∃ f, (strict.includes "FooBar").result = .error f :=
      ⟨_, strict.includes_eq_error_iff.mpr ⟨_, rfl, rfl⟩⟩
    have hclicks : ¬ ∃ f, (strict.includes "clicks").result = .error f := by
      rintro ⟨f, hf⟩
      cases hf
    obtain ⟨f, hf, -, hcode, -, hcontext⟩ := hfirst [table "clicks"] (table "FooBar") _ rfl
      (by simpa using hclicks) hrefused
    exact ⟨f, hf, hcode, hcontext⟩

end Adapter

end Pushdown
