import Pushdown.Proofs.Metadata.Snapshot
import Pushdown.Proofs.Postgres.Wildcard

/-!
# `Proofs.Postgres.Opaque` — types that are exposed as text, and whether they are fetched as text

Two tables decide about a remote type. Discovery goes by the number of the type and exposes as text whatever the
driver cannot name. The select list goes by the name of the type and casts those names to text that it knows. The
tables are kept apart and do not agree: there are opaque types whose name the select list does not know, `hstore` for
one, and their values are fetched as they are although they were announced as text.

## Contents

* `Sql.Item.FetchesText` — an item whose values arrive as text.
* `ProjectionCast.ofTypeName_cases` — what a name makes of a column.
* `fetchesText_ofTypeName_iff`, `bare_ofTypeName_iff` — the names that are cast to text, and those that are not cast.
* `getElem?_projectedItems` — the items of a select list, one by one.
* `Adapter.opaque_column_fetches_text_iff` — the opaque columns that are fetched as text.
-/

namespace Pushdown

/-- The values of the item arrive as text: those of the column, or a text in their place. -/
def Sql.Item.FetchesText (column : Sql.Expr) (item : Sql.Item) : Prop :=
  item = .expr (.cast column "VARCHAR") ∨
    ∃ text, item = .aliased (.cast (.string text) "VARCHAR") ⟨"not_supported", false⟩

/-! ## What a name makes of a column -/

namespace ProjectionCast

/-- The select list knows how the values of the type become text. -/
def listed (typeName : String) : Prop :=
  Text.asciiLower typeName ∈ textTypes ++ unsupportedTypes

/-- The type counts up by itself. -/
def serial (typeName : String) : Prop :=
  ∃ entry ∈ serialTypes, Text.startsWith entry.1 (Text.asciiLower typeName) = true

/-- A name is listed, or else it is that of a type that counts up, or else it is passed over. -/
theorem ofTypeName_cases (typeName : String) :
    (listed typeName ∧
      (ofTypeName typeName = .varchar ∨ ofTypeName typeName = .unsupported (Text.asciiLower typeName))) ∨
    (¬ listed typeName ∧ serial typeName ∧
      ∃ entry ∈ serialTypes, ofTypeName typeName = .integer entry.2) ∨
    (¬ listed typeName ∧ ¬ serial typeName ∧ ofTypeName typeName = .none) := by
  unfold listed serial ofTypeName
  dsimp only
  by_cases hunsupported : Text.asciiLower typeName ∈ unsupportedTypes
  · rw [if_pos (List.contains_iff_mem.mpr hunsupported)]
    exact .inl ⟨List.mem_append_right _ hunsupported, .inr rfl⟩
  · rw [if_neg fun h => hunsupported (List.contains_iff_mem.mp h)]
    by_cases htext : Text.asciiLower typeName ∈ textTypes
    · rw [if_pos (List.contains_iff_mem.mpr htext)]
      exact .inl ⟨List.mem_append_left _ htext, .inl rfl⟩
    · rw [if_neg fun h => htext (List.contains_iff_mem.mp h)]
      have hnot : Text.asciiLower typeName ∉ textTypes ++ unsupportedTypes := by
        rw [List.mem_append, not_or]
        exact ⟨htext, hunsupported⟩
      cases hfind : serialTypes.find? fun entry => Text.startsWith entry.1 (Text.asciiLower typeName) with
      | some entry =>
        have hmem := List.mem_of_find?_eq_some hfind
        have hstarts := List.find?_some hfind
        exact .inr (.inl ⟨hnot, ⟨entry, hmem, hstarts⟩, entry, hmem, rfl⟩)
      | none =>
        refine .inr (.inr ⟨hnot, ?_, rfl⟩)
        rintro ⟨entry, hmem, hstarts⟩
        exact List.find?_eq_none.mp hfind entry hmem hstarts

end ProjectionCast

section OneColumn

open ProjectionCast

variable (d : Dialect) (column : Column) (typeName : String)

/-- A column by its name is not a cast. -/
theorem columnExpr_ne_cast (e : Sql.Expr) (type : String) : columnExpr d column ≠ .cast e type := by
  unfold columnExpr
  cases column.qualifier with
  | none => exact nofun
  | some q => exact nofun

/-- A column is fetched as text exactly if its type name is on one of the two lists: one is cast, the other replaced
by a text. -/
theorem fetchesText_ofTypeName_iff :
    ((ofTypeName typeName).apply (columnExpr d column)).FetchesText (columnExpr d column) ↔
      listed typeName := by
  rcases ofTypeName_cases typeName with
    ⟨hlisted, h | h⟩ | ⟨hnot, -, entry, hentry, h⟩ | ⟨hnot, -, h⟩
  · rw [h]
    exact ⟨fun _ => hlisted, fun _ => .inl rfl⟩
  · rw [h]
    exact ⟨fun _ => hlisted, fun _ => .inr ⟨_, rfl⟩⟩
  · -- no type that counts up is read as text
    have hne : ∀ entry ∈ serialTypes, entry.2 ≠ "VARCHAR" := by decide
    rw [h]
    refine ⟨?_, fun hlisted => absurd hlisted hnot⟩
    rintro (heq | ⟨text, ⟨⟩⟩)
    injection heq with heq
    injection heq with _ htype
    exact absurd htype (hne entry hentry)
  · rw [h]
    refine ⟨?_, fun hlisted => absurd hlisted hnot⟩
    rintro (heq | ⟨text, ⟨⟩⟩)
    injection heq with heq
    exact absurd heq (columnExpr_ne_cast d column _ _)

/-- A column is fetched as it is exactly if its type name is on no list and no serial type. -/
theorem bare_ofTypeName_iff :
    (ofTypeName typeName).apply (columnExpr d column) = .expr (columnExpr d column) ↔
      ¬ listed typeName ∧ ¬ serial typeName := by
  have hcast : ∀ type : String,
      Sql.Item.expr (.cast (columnExpr d column) type) ≠ .expr (columnExpr d column) := by
    intro type heq
    injection heq with heq
    exact columnExpr_ne_cast d column _ _ heq.symm
  rcases ofTypeName_cases typeName with
    ⟨hlisted, h | h⟩ | ⟨-, hserial, entry, -, h⟩ | ⟨hnot, hserial, h⟩
  · rw [h]
    exact ⟨fun heq => absurd heq (hcast _), fun hneither => absurd hlisted hneither.1⟩
  · rw [h]
    exact ⟨nofun, fun hneither => absurd hlisted hneither.1⟩
  · rw [h]
    exact ⟨fun heq => absurd heq (hcast _), fun hneither => absurd hserial hneither.2⟩
  · rw [h]
    exact ⟨fun _ => ⟨hnot, hserial⟩, fun _ => rfl⟩

/-- A discovered column can always be projected, and its remote type says how. -/
theorem projectColumn_exposed {folding : CaseFolding} {c : RemoteColumn}
    (h : column.metadata = exposedColumn folding c) :
    projectColumn d column = .ok ((ofTypeName c.type.name).apply (columnExpr d column)) := by
  have hread : (exposedColumn folding c).remoteType = .ok ⟨c.type.code, c.type.name⟩ :=
    (tellsType_exposedColumn folding c).2
  unfold projectColumn ColumnMetadata.projectionCast
  rw [h, hread]
  rfl

end OneColumn

/-! ## Select lists -/

section SelectLists

variable {g : Generator}

/-- Each expression of a select list has its own item, at its own place. -/
theorem getElem?_projectedItems {nodes : List Node} {items : List Sql.Item}
    (h : (g.projectedItems nodes).result = .ok items) {i : Nat} {node : Node} (hnode : nodes[i]? = some node) :
    ∃ item, (g.projected node).result = .ok item ∧ items[i]? = some item := by
  induction nodes generalizing items i with
  | nil => cases hnode
  | cons first rest ih =>
    rw [Generator.projectedItems] at h
    obtain ⟨item, hitem, h⟩ := Traced.result_bind_eq_ok_iff.mp h
    obtain ⟨others, hothers, h⟩ := Traced.result_bind_eq_ok_iff.mp h
    cases h
    cases i with
    | zero =>
      cases hnode
      exact ⟨item, hitem, rfl⟩
    | succ i => exact ih hothers hnode

/-- Each item of a select list is written in its own place. -/
theorem getElem?_selectItems {source : Option Node} {nodes : List Node} {items : List Sql.Item}
    (h : (g.selectItems source (.expressions nodes)).result = .ok items) {i : Nat} {node : Node}
    (hnode : nodes[i]? = some node) :
    ∃ item, (g.projected node).result = .ok item ∧ items[i]? = some item := by
  rw [Generator.selectItems] at h
  split at h
  · cases h
  · exact getElem?_projectedItems h hnode

end SelectLists

section Wildcards

variable {folding : CaseFolding} {context : GenerationContext} {relation : Node} {items : List Sql.Item}

/-- `*` stays only if every column is as good as bare; otherwise each column has its own item, at its own place. -/
theorem getElem?_wildcard
    (h : ((Generator.postgres folding context).selectItems (some relation) .wildcard).result = .ok items)
    {i : Nat} {column : Column} (hcolumn : (relation.fromColumns relation.isJoin)[i]? = some column) :
    (items = [.star] ∧ column.metadata.projectionCast = .ok .none) ∨
      ∃ item, ((Generator.postgres folding context).projected (.column column)).result = .ok item ∧
        items[i]? = some item := by
  rw [result_wildcard, Outcome.bind_eq_ok_iff] at h
  obtain ⟨found, hfound, h⟩ := h
  cases found with
  | false =>
    cases h
    refine .inl ⟨rfl, needsCast_eq_ok_false.mp hfound _ ?_⟩
    exact List.mem_map_of_mem (List.mem_of_getElem? hcolumn)
  | true =>
    rw [if_pos rfl, ← result_projectedItems_columns folding context] at h
    refine .inr (getElem?_projectedItems h ?_)
    rw [List.getElem?_map, hcolumn]
    rfl

end Wildcards

/-! ## Opaque columns -/

open ProjectionCast in
/-- **An opaque column is fetched as text exactly if the select list knows the name of its type.** Let the column be
discovered from a remote type that PostgreSQL's own rules expose as text. Directly in a select list it always has an
item; the values of the item arrive as text if and only if the name is listed, and the item is the bare column if and
only if the name is neither listed nor that of a type that counts up. That item stands at the column's place in every
select list and in every `*` that is written out; a `*` that stays is as good as the bare column. -/
theorem Adapter.opaque_column_fetches_text_iff (a : Adapter) (context : GenerationContext) (c : RemoteColumn)
    {exposed : CanonicalType} (hown : c.type.postgresOwn? = some exposed) {column : Column}
    (hcolumn : (discoverColumn a.folding c : Traced ConfigError ColumnMetadata).result = .ok column.metadata) :
    let g := Generator.postgres a.folding context
    let bare := columnExpr a.dialect column
    column.metadata.type = exposed ∧
    ∃ item, (g.projected (.column column)).result = .ok item ∧
      (item.FetchesText bare ↔ listed c.type.name) ∧
      (item = .expr bare ↔ ¬ listed c.type.name ∧ ¬ serial c.type.name) ∧
      (∀ source nodes items (i : Nat), (g.selectItems source (.expressions nodes)).result = .ok items →
        nodes[i]? = some (Node.column column) → items[i]? = some item) ∧
      (∀ relation items (i : Nat), (g.selectItems (some relation) .wildcard).result = .ok items →
        (relation.fromColumns relation.isJoin)[i]? = some column →
        items = [.star] ∧ item = .expr bare ∨ items[i]? = some item) := by
  intro g bare
  rw [result_discoverColumn] at hcolumn
  injection hcolumn with hmetadata
  have hproject := projectColumn_exposed a.dialect column hmetadata.symm
  have hitem : (g.projected (.column column)).result = .ok ((ofTypeName c.type.name).apply bare) := hproject
  refine ⟨?_, _, hitem, fetchesText_ofTypeName_iff _ _ _, bare_ofTypeName_iff _ _ _, ?_, ?_⟩
  · rw [← hmetadata]
    show c.type.postgresOwn?.getD c.type.standard = exposed
    rw [hown, Option.getD_some]
  · intro source nodes items i hitems hnode
    obtain ⟨item, hprojected, hplace⟩ := getElem?_selectItems hitems hnode
    rw [hitem] at hprojected
    cases hprojected
    exact hplace
  · intro relation items i hitems hplace
    rcases getElem?_wildcard hitems hplace with ⟨hstar, hnone⟩ | ⟨item, hprojected, hplace⟩
    · refine .inl ⟨hstar, ?_⟩
      unfold projectColumn at hproject
      rw [hnone] at hproject
      injection hproject with heq
      exact heq.symm
    · rw [hitem] at hprojected
      cases hprojected
      exact .inr hplace

/-- A listed type is cast in any case of its letters. -/
theorem Adapter.varbit_column_fetches_text :
    let a : Adapter := { properties := { entries := [] }, filter := ⟨.convertToUpper, false⟩ }
    let c : RemoteColumn := { name := "b", type := { code := 1111, name := "VarBit", size := 8 } }
    let column : Column := { metadata := exposedColumn .convertToUpper c }
    c.type.postgresOwn? = some .maxVarchar ∧
    ∃ item, ((Generator.postgres a.folding {}).projected (.column column)).result = .ok item ∧
      item.FetchesText (columnExpr a.dialect column) := by
  intro a c column
  have hown : c.type.postgresOwn? = some .maxVarchar := by decide +kernel
  have hcolumn : (discoverColumn a.folding c : Traced ConfigError ColumnMetadata).result = .ok column.metadata :=
    result_discoverColumn _ c
  obtain ⟨-, item, hitem, hiff, -⟩ := opaque_column_fetches_text_iff a {} c hown hcolumn
  have hlisted : Text.asciiLower "VarBit" ∈ ProjectionCast.textTypes ++ ProjectionCast.unsupportedTypes := by
    decide +kernel
  exact ⟨hown, item, hitem, hiff.mpr hlisted⟩

/-- `hstore` is exposed as text, but its values are fetched as they are. -/
theorem Adapter.hstore_column_fetched_bare :
    let a : Adapter := { properties := { entries := [] }, filter := ⟨.convertToUpper, false⟩ }
    let c : RemoteColumn := { name := "h", type := { code := 1111, name := "hstore" } }
    let column : Column := { metadata := exposedColumn .convertToUpper c }
    let table : Table := { name := "T", metadata := { name := "T", columns := [column.metadata] } }
    c.type.postgresOwn? = some .maxVarchar ∧
      (a.compile {} (.select (.expressions [.column column]) (.table table) none none none none none)).result.toOption
        = some "SELECT \"h\" FROM \"t\"" := by
  intro a c column table
  exact ⟨by decide +kernel, by decide +kernel⟩

end Pushdown
