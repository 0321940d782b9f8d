import Pushdown.Postgres.Adapter
import Pushdown.Proofs.Outcome

/-!
# `Proofs.Postgres.Wildcard` — what `*` stands for

PostgreSQL's generator looks for a column that needs a cast, stops at the first, and only then writes all columns
out. The search and the writing fail for the same columns, so that a caller sees neither where the search stopped
nor that there was one: `*` is refused exactly if some column cannot be read, and the refusal names the first such
column in the order of the FROM clause.

## Contents

* `Node.fromColumns` — the columns of a FROM clause, read off its tree.
* `needsCast_eq_ok_false`, `needsCast_append` — the search for a cast.
* `projectColumns_eq_error`, `projectColumns_eq_ok` — the columns of a list, all or the first that fails.
* `wildcard_eq_error`, `wildcard_eq_star`, `wildcard_eq_listed` — `*` in the three cases.
* `Adapter.wildcard_agrees_with_list` — `*` and the list of all columns.
-/

namespace Pushdown

/-- The notes of the column can be read. -/
def ColumnMetadata.readable (c : ColumnMetadata) : Bool := c.remoteType.isOk

/-- The columns of the tables of a FROM clause, from left to right, with the name of their table if asked. -/
def Node.fromColumns (qualified : Bool) : Node → List Column
  | .table t => t.metadata.columns.map fun c =>
      { metadata := c, tableAlias := if qualified then some t.qualifier else none }
  | .join _ left right _ => left.fromColumns qualified ++ right.fromColumns qualified
  | _ => []

theorem Node.fromColumns_eq_nil {node : Node} (h : node.isRelation = false) (qualified : Bool) :
    node.fromColumns qualified = [] := by
  cases node with
  | table | join => cases h
  | _ => rfl

/-! ## One column -/

section OneColumn

variable {c : ColumnMetadata}

theorem readable_iff : c.readable ↔ ∃ cast, c.projectionCast = .ok cast := by
  unfold ColumnMetadata.readable ColumnMetadata.projectionCast
  cases c.remoteType with
  | ok notes => simp [Except.isOk, Except.toBool]
  | error fault => simp [Except.isOk, Except.toBool]

/-- A column that cannot be read is refused by its name. -/
theorem projectionCast_of_unreadable (h : ¬ c.readable) :
    ∃ fault, c.remoteType = .error fault ∧ c.projectionCast = .error (.typeUnresolved c.name fault) := by
  unfold ColumnMetadata.readable at h
  unfold ColumnMetadata.projectionCast
  cases hread : c.remoteType with
  | ok notes => simp [hread, Except.isOk, Except.toBool] at h
  | error fault => exact ⟨fault, rfl, rfl⟩

/-- The number of a column has no part in how it is projected. -/
theorem projectColumn_id (d : Dialect) (column : Column) (id : Nat) :
    projectColumn d { column with id } = projectColumn d column := rfl

end OneColumn

/-! ## The search for a cast -/

/-- Columns without a cast are passed over. -/
theorem needsCast_append {before : List ColumnMetadata} (after : List ColumnMetadata)
    (h : ∀ c ∈ before, c.projectionCast = .ok .none) :
    needsCast (before ++ after) = needsCast after := by
  induction before with
  | nil => rfl
  | cons c before ih =>
    have hc : c.projectionCast = .ok .none := h c (by simp)
    rw [List.cons_append, needsCast, hc]
    exact ih fun b hb => h b (by simp [hb])

/-- The search finds nothing only if there is nothing to find. -/
theorem needsCast_eq_ok_false {cs : List ColumnMetadata} :
    needsCast cs = .ok false ↔ ∀ c ∈ cs, c.projectionCast = .ok .none := by
  induction cs with
  | nil => simp [needsCast]
  | cons c cs ih =>
    unfold needsCast
    cases hc : c.projectionCast with
    | error e => simp [hc]
    | ok cast =>
      by_cases hnone : cast = .none
      · simp [hc, hnone, ih]
      · simp [hc, hnone]

/-- The search ends at the first cast, if it can read as far as that. -/
theorem needsCast_append_of_cast (before after : List ColumnMetadata)
    (h : ∀ c ∈ before, c.readable) (hcast : ∃ c ∈ before, c.projectionCast ≠ .ok .none) :
    needsCast (before ++ after) = .ok true := by
  induction before with
  | nil => simp at hcast
  | cons c before ih =>
    obtain ⟨cast, hc⟩ := readable_iff.mp (h c (by simp))
    rw [List.cons_append, needsCast, hc]
    by_cases hnone : cast = .none
    · subst hnone
      -- this column needs no cast, so the one that does is further on
      simp only [if_true]
      refine ih (fun b hb => h b (by simp [hb])) ?_
      obtain ⟨b, hb, hne⟩ := hcast
      rcases List.mem_cons.mp hb with rfl | hb
      · exact absurd hc hne
      · exact ⟨b, hb, hne⟩
    · simp [hnone]

/-- Before a column that cannot be read, the search finds a cast, or else it stops at this column. -/
theorem needsCast_unreadable (before : List ColumnMetadata) {c : ColumnMetadata}
    (after : List ColumnMetadata) {e : GenerationError} (h : ∀ b ∈ before, b.readable)
    (hc : c.projectionCast = .error e) :
    needsCast (before ++ c :: after) = .ok true ∨ needsCast (before ++ c :: after) = .error e := by
  by_cases hcast : ∃ b ∈ before, b.projectionCast ≠ .ok .none
  · exact .inl (needsCast_append_of_cast before _ h hcast)
  · have hplain : ∀ b ∈ before, b.projectionCast = .ok .none := by
      intro b hb
      exact Classical.byContradiction fun hne => hcast ⟨b, hb, hne⟩
    right
    rw [needsCast_append _ hplain, needsCast, hc]

/-! ## The columns of a list -/

section Columns

variable (d : Dialect)

/-- Columns that can be read give one item each. -/
theorem projectColumns_eq_ok {cs : List Column} (h : ∀ c ∈ cs, c.metadata.readable) :
    ∃ items, cs.mapM (projectColumn d) = .ok items ∧ items.length = cs.length := by
  induction cs with
  | nil => exact ⟨[], rfl, rfl⟩
  | cons c cs ih =>
    obtain ⟨cast, hc⟩ := readable_iff.mp (h c (by simp))
    obtain ⟨items, hitems, hlength⟩ := ih fun b hb => h b (by simp [hb])
    have hitem : projectColumn d c = .ok (cast.apply (columnExpr d c)) := by
      rw [projectColumn, hc]
      rfl
    refine ⟨cast.apply (columnExpr d c) :: items, ?_, by simp [hlength]⟩
    rw [List.mapM_cons, hitem, hitems]
    rfl

/-- The first column that cannot be read is the one that is refused. -/
theorem projectColumns_eq_error {before : List Column} {c : Column} {after : List Column}
    {e : GenerationError} (h : ∀ b ∈ before, b.metadata.readable)
    (hc : c.metadata.projectionCast = .error e) :
    (before ++ c :: after).mapM (projectColumn d) = .error e := by
  obtain ⟨items, hitems, -⟩ := projectColumns_eq_ok d h
  have hitem : projectColumn d c = .error e := by
    rw [projectColumn, hc]
    rfl
  rw [List.mapM_append, hitems, List.mapM_cons, hitem]
  rfl

/-- Numbering the columns does not change their items. -/
theorem mapM_projectColumn_mapIdx (cs : List Column) (number : Nat → Nat) :
    (cs.mapIdx fun i c => { c with id := number i }).mapM (projectColumn d) =
      cs.mapM (projectColumn d) := by
  induction cs generalizing number with
  | nil => rfl
  | cons c cs ih =>
    rw [List.mapIdx_cons, List.mapM_cons, List.mapM_cons, projectColumn_id, ih fun i => number (i + 1)]

end Columns

/-! ## The columns of a FROM clause -/

/-- The columns of a FROM clause are those of its tables, one after the other. -/
theorem columnsOf_tables (qualified : Bool) (source : Node) :
    columnsOf qualified source.tables = source.fromColumns qualified := by
  induction source using Node.source_induction with
  | table t => simp [columnsOf, Node.tables, Node.fromColumns]
  | join kind left right condition ihl ihr =>
    simp only [columnsOf] at ihl ihr
    simp [columnsOf, Node.tables, Node.fromColumns, ihl, ihr]
  | other node hnode =>
    rw [Node.tables_eq_nil hnode, Node.fromColumns_eq_nil hnode]
    rfl

theorem metadata_fromColumns (qualified : Bool) (source : Node) :
    (source.fromColumns qualified).map (·.metadata) = source.tables.flatMap (·.metadata.columns) := by
  rw [← columnsOf_tables, columnsOf, List.map_flatMap]
  simp [Function.comp_def]

section Wildcard

variable (folding : CaseFolding) (context : GenerationContext) {source : Node}

/-- The items of `*`, in terms of the columns of the FROM clause. -/
theorem result_wildcard (source : Node) :
    ((Generator.postgres folding context).selectItems (some source) .wildcard).result =
      (needsCast ((source.fromColumns source.isJoin).map (·.metadata))).bind fun found =>
        if found then (source.fromColumns source.isJoin).mapM (projectColumn (.postgres folding))
        else .ok [.star] := by
  -- the columns are numbered for the expansion, and no item shows the numbers
  have hwritten : (expandedColumns source).mapM (projectColumn (.postgres folding)) =
      (source.fromColumns source.isJoin).mapM (projectColumn (.postgres folding)) := by
    rw [expandedColumns, columnsOf_tables]
    exact mapM_projectColumn_mapIdx _ _ id
  show (expandWildcard (.postgres folding) (some source)).result = _
  rw [metadata_fromColumns, ← hwritten, expandWildcard]
  simp [apply_ite Traced.result]

/-- The items of a list of columns, one by one. -/
theorem result_projectedItems_columns (cs : List Column) :
    ((Generator.postgres folding context).projectedItems (cs.map .column)).result =
      cs.mapM (projectColumn (.postgres folding)) := by
  induction cs with
  | nil => rfl
  | cons c cs ih =>
    simp only [List.map_cons, Generator.projectedItems, Traced.result_bind, ih, List.mapM_cons]
    rfl

/-- The items of a list of columns. -/
theorem result_listed (source : Option Node) {cs : List Column} (h : cs ≠ []) :
    ((Generator.postgres folding context).selectItems source (.expressions (cs.map .column))).result =
      cs.mapM (projectColumn (.postgres folding)) := by
  rw [Generator.selectItems, ← result_projectedItems_columns folding context]
  cases cs with
  | nil => exact absurd rfl h
  | cons c cs => rfl

/-- `*` is refused for the first column that cannot be read, wherever the search for a cast has ended. -/
theorem wildcard_eq_error {before : List Column} {c : Column} {after : List Column}
    {e : GenerationError} (hsplit : source.fromColumns source.isJoin = before ++ c :: after)
    (hbefore : ∀ b ∈ before, b.metadata.readable) (hc : c.metadata.projectionCast = .error e) :
    ((Generator.postgres folding context).selectItems (some source) .wildcard).result = .error e := by
  have hsearch := needsCast_unreadable (before.map (·.metadata)) (after.map (·.metadata))
    (by simpa using hbefore) hc
  rw [result_wildcard, hsplit, projectColumns_eq_error _ hbefore hc]
  rw [List.map_append, List.map_cons]
  rcases hsearch with h | h
  · simp [h]
  · simp [h]

/-- `*` stays if no column needs a cast. -/
theorem wildcard_eq_star
    (h : ∀ c ∈ source.fromColumns source.isJoin, c.metadata.projectionCast = .ok .none) :
    ((Generator.postgres folding context).selectItems (some source) .wildcard).result =
      .ok [.star] := by
  have hsearch : needsCast ((source.fromColumns source.isJoin).map (·.metadata)) = .ok false :=
    needsCast_eq_ok_false.mpr (by simpa using h)
  rw [result_wildcard, hsearch]
  rfl

/-- `*` is the list of all columns if one of them needs a cast and all can be read. -/
theorem wildcard_eq_listed
    (h : ∀ c ∈ source.fromColumns source.isJoin, c.metadata.readable)
    (hcast : ∃ c ∈ source.fromColumns source.isJoin, c.metadata.projectionCast ≠ .ok .none) :
    ((Generator.postgres folding context).selectItems (some source) .wildcard).result =
      (source.fromColumns source.isJoin).mapM (projectColumn (.postgres folding)) := by
  obtain ⟨c, hc, hne⟩ := hcast
  have hsearch := needsCast_append_of_cast ((source.fromColumns source.isJoin).map (·.metadata)) []
    (by simpa using h) ⟨c.metadata, List.mem_map_of_mem hc, hne⟩
  rw [List.append_nil] at hsearch
  rw [result_wildcard, hsearch]
  rfl

/-- Among columns of which some cannot be read, there is a first. -/
theorem exists_first_unreadable {cs : List Column} (h : ¬ ∀ c ∈ cs, c.metadata.readable) :
    ∃ before c after, cs = before ++ c :: after ∧ (∀ b ∈ before, b.metadata.readable) ∧
      ¬ c.metadata.readable := by
  cases hfind : cs.find? fun c => !c.metadata.readable with
  | none => exact absurd (by simpa using List.find?_eq_none.mp hfind) h
  | some c =>
    obtain ⟨hc, before, after, hsplit, hbefore⟩ := List.find?_eq_some_iff_append.mp hfind
    exact ⟨before, c, after, hsplit, by simpa using hbefore, by simpa using hc⟩

/-- `*` can be written if and only if all columns can be read. -/
theorem exists_wildcard_iff (source : Node) :
    (∃ items, ((Generator.postgres folding context).selectItems (some source) .wildcard).result =
      .ok items) ↔ ∀ c ∈ source.fromColumns source.isJoin, c.metadata.readable := by
  constructor
  · rintro ⟨items, hitems⟩
    refine Classical.byContradiction fun hnot => ?_
    obtain ⟨before, c, after, hsplit, hbefore, hc⟩ := exists_first_unreadable hnot
    obtain ⟨fault, -, herror⟩ := projectionCast_of_unreadable hc
    rw [wildcard_eq_error folding context hsplit hbefore herror] at hitems
    cases hitems
  · intro hall
    by_cases hcast : ∃ c ∈ source.fromColumns source.isJoin, c.metadata.projectionCast ≠ .ok .none
    · obtain ⟨items, hitems, -⟩ := projectColumns_eq_ok (.postgres folding) hall
      exact ⟨items, (wildcard_eq_listed folding context hall hcast).trans hitems⟩
    · refine ⟨[.star], wildcard_eq_star folding context fun c hc => ?_⟩
      exact Classical.byContradiction fun hne => hcast ⟨c, hc, hne⟩

end Wildcard

/-! ## Statements -/

section Statements

variable (a : Adapter) (context : GenerationContext) {relation : Node} (filter : Option Node)
  (keys : Option (List Node)) (having : Option Node) (ordering : Option (List SortItem))
  (limit : Option Limit)

/-- A select list that is refused makes its statement refused. -/
theorem compile_of_selectItems_error (hrelation : relation.isRelation) {list : SelectList}
    {e : GenerationError}
    (h : ((Generator.postgres a.folding context).selectItems (some relation) list).result = .error e) :
    (a.compile context (.select list relation filter keys having ordering limit)).result =
      .error (e.toFailure Dialect.postgresName) := by
  rw [Adapter.compile, Generator.result_generate, Generator.lexemes, Traced.result_bind,
    Generator.result_statement _ hrelation, h]
  rfl

/-- Select lists with the same items make the same statement. -/
theorem compile_select_congr (hrelation : relation.isRelation) {list list' : SelectList}
    (h : ((Generator.postgres a.folding context).selectItems (some relation) list).result =
      ((Generator.postgres a.folding context).selectItems (some relation) list').result) :
    (a.compile context (.select list relation filter keys having ordering limit)).result =
      (a.compile context (.select list' relation filter keys having ordering limit)).result := by
  simp only [Adapter.compile, Generator.result_generate, Generator.lexemes, Traced.result_bind,
    Generator.result_statement _ hrelation, h]

/-- **`*` agrees with the list of all columns.** Let the columns be those of all tables of the FROM clause, from
left to right, named with their table if it is a join. `*` is refused if and only if one of them cannot be read, and
the refusal names the first of these; it stays `*` if none needs a cast; otherwise it has the items of the list of
all columns, one for each, and the whole statement is written as with that list. -/
theorem Adapter.wildcard_agrees_with_list (hrelation : relation.isRelation) :
    let g := Generator.postgres a.folding context
    let columns := relation.fromColumns relation.isJoin
    let listed := SelectList.expressions (columns.map .column)
    let projection := fun list => (g.selectItems (some relation) list).result
    let compiled := fun list =>
      (a.compile context (.select list relation filter keys having ordering limit)).result
    ((∃ e, projection .wildcard = .error e) ↔ ∃ c ∈ columns, ¬ c.metadata.readable) ∧
    (∀ before c after, columns = before ++ c :: after → (∀ b ∈ before, b.metadata.readable) →
      ¬ c.metadata.readable →
      ∃ fault, c.metadata.remoteType = .error fault ∧
        projection .wildcard = .error (.typeUnresolved c.metadata.name fault) ∧
        ∃ f, compiled .wildcard = .error f ∧ f.code.text = "PGVS-2001" ∧
          f.message = GenerationError.typeMessage c.metadata.name ∧
          f.context = some (.generation "POSTGRESQL" ("column " ++ c.metadata.name) fault.message)) ∧
    ((∀ c ∈ columns, c.metadata.projectionCast = .ok .none) → projection .wildcard = .ok [.star]) ∧
    ((∀ c ∈ columns, c.metadata.readable) → (∃ c ∈ columns, c.metadata.projectionCast ≠ .ok .none) →
      ∃ items, projection .wildcard = .ok items ∧ projection listed = .ok items ∧
        items.length = columns.length ∧ compiled .wildcard = compiled listed) := by
  intro g columns listed projection compiled
  refine ⟨?_, ?_, wildcard_eq_star a.folding context, ?_⟩
  · have hiff := exists_wildcard_iff a.folding context relation
    constructor
    · rintro ⟨e, he⟩
      refine Classical.byContradiction fun hnone => ?_
      obtain ⟨items, hitems⟩ := hiff.mpr fun c hc => Classical.byContradiction fun hno =>
        hnone ⟨c, hc, hno⟩
      exact absurd (he.symm.trans hitems) (by simp)
    · rintro ⟨c, hc, hno⟩
      cases hresult : projection .wildcard with
      | error e => exact ⟨e, rfl⟩
      | ok items => exact absurd (hiff.mp ⟨items, hresult⟩ c hc) hno
  · intro before c after hsplit hbefore hc
    obtain ⟨fault, hfault, herror⟩ := projectionCast_of_unreadable hc
    have hrefused := wildcard_eq_error a.folding context hsplit hbefore herror
    exact ⟨fault, hfault, hrefused, _,
      compile_of_selectItems_error a context filter keys having ordering limit hrelation hrefused,
      show Code.columnTypeUnresolved.text = "PGVS-2001" by decide, rfl, rfl⟩
  · intro hall hcast
    have hne : columns ≠ [] := by
      obtain ⟨c, hc, -⟩ := hcast
      exact List.ne_nil_of_mem hc
    obtain ⟨items, hitems, hlength⟩ := projectColumns_eq_ok (.postgres a.folding) hall
    have hstar := (wildcard_eq_listed a.folding context hall hcast).trans hitems
    have hlisted := (result_listed a.folding context (some relation) hne).trans hitems
    exact ⟨items, hstar, hlisted, hlength,
      compile_select_congr a context filter keys having ordering limit hrelation
        (hstar.trans hlisted.symm)⟩

/-- In a self join, `*` is refused for the second column although the first needs a cast. -/
theorem Adapter.wildcard_of_self_join :
    let document : ColumnMetadata :=
      { name := "DOC", notes := "\x7b\"jdbcDataType\":1111,\"typeName\":\"json\"\x7d", type := .boolean }
    let lost : ColumnMetadata := { name := "LOST", notes := "", type := .boolean }
    let table := fun name : String => Node.table
      { name := "T", aliasName := some name, metadata := { name := "T", columns := [document, lost] } }
    let relation := Node.join .inner (table "A") (table "B") (.literal (.bool true))
    let a : Adapter := { properties := { entries := [] }, filter := ⟨.convertToUpper, false⟩ }
    relation.isRelation ∧ document.projectionCast.toOption = some .varchar ∧
      ∃ f, (a.compile {} (.select .wildcard relation none none none none none)).result = .error f ∧
        f.code.text = "PGVS-2001" ∧ f.message = GenerationError.typeMessage "LOST" := by
  intro document lost table relation a
  have hrelation : relation.isRelation := by rfl
  have hreadable : document.readable := by decide +kernel
  have hlost : ¬ lost.readable := by decide +kernel
  obtain ⟨-, hfirst, -⟩ := wildcard_agrees_with_list a {} none none none none none hrelation
  obtain ⟨fault, -, -, f, hf, hcode, hmessage, -⟩ :=
    hfirst [{ metadata := document, tableAlias := some "A" }] { metadata := lost, tableAlias := some "A" }
      _ rfl (by simpa using hreadable) hlost
  exact ⟨hrelation, by decide +kernel, f, hf, hcode, hmessage⟩

end Statements

end Pushdown
