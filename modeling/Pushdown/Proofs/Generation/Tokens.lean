import Pushdown.Proofs.Generation.Reading
import Pushdown.Proofs.Query.Slots

/-!
# `Proofs.Generation.Tokens` — PostgreSQL finds the tokens of the tree in every generated text

The text of a whole statement falls into the tokens that `Node.slots` reads off its tree, clause by clause.

## Contents

* `speltSlots_selectItems` — select lists, with casts and `*`.
* `speltSlots_source` — FROM clauses.
* `speltSlots_statement`, `spelt_lexemes` — statements, and any node.
* `Adapter.lex_compile` — the text that a caller gets.
-/

namespace Pushdown

section Reading

open Sql

variable (folding : CaseFolding) (context : GenerationContext)

/-- The lexemes read as the tokens of the slots. -/
def SpeltSlots (ls : List Lexeme) (ss : List Slot) : Prop := Spelt ls (ss.map Slot.token)

theorem tokens_yield (p : Phrase Slot) : (p.yield .fixed).map Slot.token = p.read.tokens :=
  (yield_map Slot.token Slot.fixed p).symm

theorem tokens_keywords (ws : List String) : (keywords ws).map Slot.token = ws.map .word := by
  simp [keywords, Function.comp_def, Slot.token]

theorem tokens_fixed (ts : List Token) : (ts.map Slot.fixed).map Slot.token = ts := by
  simp [Function.comp_def, Slot.token]

theorem tokens_listedSlots (parts : List (List Slot)) :
    (listedSlots parts).map Slot.token = listed id (parts.map (List.map Slot.token)) :=
  (listed_map Slot.token Slot.fixed parts).symm

theorem speltSlots_expr {n : Node} {e : Expr} (hn : n.plain)
    (h : ((Generator.postgres folding context).expr n).result = .ok e) :
    SpeltSlots e.lexemes (n.expressionSlots folding) := by
  have hreads := reads_expr folding context n hn h
  rwa [Reads, ← tokens_yield] at hreads

/-- The integers that a column is cast to are words. -/
theorem isWord_of_ofTypeName {typeName integer : String}
    (h : ProjectionCast.ofTypeName typeName = .integer integer) : isWord integer := by
  unfold ProjectionCast.ofTypeName at h
  dsimp only at h
  split at h
  · cases h
  · split at h
    · cases h
    · split at h
      next entry hfind =>
        cases h
        have hall : ∀ entry ∈ ProjectionCast.serialTypes, isWord entry.2 := by decide
        exact hall entry (List.mem_of_find?_eq_some hfind)
      · cases h

/-- The name of a type that does not arrive holds no quote. -/
theorem not_mem_of_ofTypeName {typeName text : String}
    (h : ProjectionCast.ofTypeName typeName = .unsupported text) :
    '\'' ∉ (text ++ " NOT SUPPORTED").toList := by
  unfold ProjectionCast.ofTypeName at h
  dsimp only at h
  split at h
  next hcontains =>
    cases h
    have htext : Text.asciiLower typeName = "bytea" := by
      simpa [ProjectionCast.unsupportedTypes] using hcontains
    rw [htext]
    decide
  · split at h
    · cases h
    · split at h <;> cases h

/-- A column with its cast reads as its tokens. -/
theorem speltSlots_cast (c : Column) (typeName : String) :
    SpeltSlots ((ProjectionCast.ofTypeName typeName).apply (columnExpr (.postgres folding) c)).lexemes
      ((ProjectionCast.ofTypeName typeName).slots (c.phrase folding)) := by
  have hcolumn := reads_column folding c
  have hvarchar := spelt_word (w := "VARCHAR") (by decide)
  unfold SpeltSlots
  cases hcast : ProjectionCast.ofTypeName typeName with
  | none =>
    rw [ProjectionCast.slots, tokens_yield]
    exact hcolumn
  | varchar =>
    rw [ProjectionCast.slots, tokens_yield]
    exact hcolumn.cast hvarchar
  | integer name =>
    rw [ProjectionCast.slots, tokens_yield]
    exact hcolumn.cast (spelt_word (isWord_of_ofTypeName hcast))
  | unsupported name =>
    have hname := (reads_string _ (not_mem_of_ofTypeName hcast)).cast hvarchar
    have h := Spelt.spaced (w := "AS") (by decide) hname (spelt_word (w := "not_supported") (by decide))
    rw [ProjectionCast.slots, List.map_append, tokens_yield, tokens_keywords]
    simpa [ProjectionCast.apply, Item.lexemes, Ident.lexeme, Phrase.map, Slot.token] using h

/-- **One item of a select list.** A column is written as its notes ask, bare or cast or replaced by a text; all other
items as expressions. -/
theorem speltSlots_projected {n : Node} {item : Item} (hn : n.plain)
    (h : ((Generator.postgres folding context).projected n).result = .ok item) :
    SpeltSlots item.lexemes (n.itemSlots folding) := by
  cases n with
  | column c =>
    have hitem : c.metadata.projectionCast.bind (fun cast =>
        .ok (cast.apply (columnExpr (.postgres folding) c))) = .ok item := h
    obtain ⟨cast, hcast, happly⟩ := Outcome.bind_eq_ok_iff.mp hitem
    cases happly
    rw [Node.itemSlots, Column.itemSlots, hcast]
    unfold ColumnMetadata.projectionCast at hcast
    cases hread : c.metadata.remoteType with
    | error fault => simp [hread] at hcast
    | ok notes =>
      simp only [hread, Except.ok.injEq] at hcast
      subst hcast
      exact speltSlots_cast folding c notes.typeName
  | _ =>
    simp only [Generator.projected, Traced.result_bind_eq_ok_iff, Traced.result_pure_eq_ok_iff] at h
    obtain ⟨e, he, rfl⟩ := h
    exact speltSlots_expr folding context hn he

/-- The items of a select list one by one, in order. -/
theorem speltAll_projectedItems {ns : List Node} {items : List Item} (hn : allPlain ns)
    (h : ((Generator.postgres folding context).projectedItems ns).result = .ok items) :
    SpeltAll (items.map Item.lexemes) ((ns.map (·.itemSlots folding)).map (List.map Slot.token)) := by
  induction ns generalizing items with
  | nil =>
    simp only [Generator.projectedItems, Traced.result_pure_eq_ok_iff] at h
    subst h
    exact .nil
  | cons n ns ih =>
    simp only [allPlain, Bool.and_eq_true] at hn
    simp only [Generator.projectedItems, Traced.result_bind_eq_ok_iff, Traced.result_pure_eq_ok_iff] at h
    obtain ⟨item, hitem, rest, hrest, rfl⟩ := h
    exact .cons (speltSlots_projected folding context hn.1 hitem) (ih hn.2 hrest)

theorem speltSlots_items {ns : List Node} {items : List Item} (hn : allPlain ns)
    (h : ((Generator.postgres folding context).projectedItems ns).result = .ok items) :
    SpeltSlots (itemsLexemes items) (listedSlots (ns.map (·.itemSlots folding))) := by
  rw [SpeltSlots, tokens_listedSlots]
  exact spelt_separated (speltAll_projectedItems folding context hn h)

theorem spelt_star : SpeltSlots (itemsLexemes [.star]) [.fixed (.operator "*")] :=
  spelt_lexeme (spells_operator .times)

theorem castFree_iff (c : ColumnMetadata) : c.castFree ↔ c.projectionCast = .ok .none := by
  unfold ColumnMetadata.castFree
  split
  next h => simp [h]
  next h => simpa using h

theorem allPlain_columns (cs : List Column) : allPlain (cs.map .column) := by
  induction cs with
  | nil => rfl
  | cons c cs ih => exact ih

/-- A select list reads as its tokens. -/
theorem speltSlots_selectItems {list : SelectList} {source : Option Node} {items : List Item}
    (hlist : list.plain)
    (h : ((Generator.postgres folding context).selectItems source list).result = .ok items) :
    SpeltSlots (itemsLexemes items) (list.slots folding source) := by
  cases list with
  | anyValue =>
    cases h
    exact spelt_intText 1
  | wildcard =>
    cases source with
    | none =>
      cases h
      exact spelt_star
    | some source =>
      -- `*` was written, so all columns can be read, and it is a list exactly if one of them has a cast
      have hall := (exists_wildcard_iff folding context source).mp ⟨items, h⟩
      rw [SelectList.slots, wildcardSlots]
      split
      next hfree =>
        simp only [List.all_eq_true, castFree_iff] at hfree
        rw [wildcard_eq_star folding context hfree] at h
        cases h
        exact spelt_star
      next hcast =>
        simp only [List.all_eq_true, castFree_iff, Classical.not_forall] at hcast
        obtain ⟨c, hc, hne⟩ := hcast
        rw [wildcard_eq_listed folding context hall ⟨c, hc, hne⟩,
          ← result_projectedItems_columns folding context] at h
        have hitems := speltSlots_items folding context (allPlain_columns _) h
        rwa [List.map_map] at hitems
  | expressions ns =>
    cases ns with
    | nil => simp [Generator.selectItems] at h
    | cons n ns => exact speltSlots_items folding context hlist h

/-- A table of a FROM clause reads as its tokens. -/
theorem speltSlots_table (t : Table) :
    Spelt (tableFactor (.postgres folding) context t).lexemes (t.tokens folding context) := by
  have hquote : ∀ name, (Dialect.postgres folding).quote name = quotedIdent (folding.written name) :=
    folding.quote_eq
  -- of the context only the schema is written, and an empty one is none
  have hcatalog : qualifyingPart (.postgres folding) (Dialect.postgres folding).catalogQualified
      context.catalog = [] := by
    unfold qualifyingPart
    cases context.catalog <;> rfl
  have hschema : qualifyingPart (.postgres folding) (Dialect.postgres folding).schemaQualified
      context.schema = (schemaNames folding context).map quotedIdent := by
    unfold qualifyingPart schemaNames
    cases context.schema with
    | none => rfl
    | some name =>
      by_cases hname : name = ""
      · simp [hname]
      · simp [hname, Dialect.postgres, CaseFolding.quote_eq]
  have hpath := spelt_path (schemaNames folding context ++ [folding.written t.name]) (by simp)
  rw [List.map_append, ← hschema, List.map_singleton, ← hquote] at hpath
  unfold tableFactor Table.tokens
  rw [hcatalog, List.nil_append]
  cases t.aliasName.filter (· ≠ t.name) with
  | none => simpa [Factor.lexemes] using hpath
  | some name =>
    have halias := Spelt.spaced (w := "AS") (by decide) hpath (spelt_ident (folding.written name))
    rw [← hquote] at halias
    simpa [Factor.lexemes] using halias

theorem joinsLexemes_append (joins more : List Join) :
    joinsLexemes (joins ++ more) = joinsLexemes joins ++ joinsLexemes more := by
  induction joins with
  | nil => rfl
  | cons join joins ih =>
    cases join
    simp [joinsLexemes, ih]

/-- One more join is written behind a FROM clause. -/
theorem lexemes_push (s : Source) (kind : JoinKind) (factor : Factor) (condition : Expr) :
    (s.push (.mk kind factor condition)).lexemes =
      s.lexemes ++ (.blank :: joinWords kind ++ .blank :: factor.lexemes ++ spaced "ON" ++
        condition.lexemes) := by
  cases s with
  | mk head joins => simp [Source.push, Source.lexemes, joinsLexemes_append, joinsLexemes]

theorem spelt_joinWords (kind : JoinKind) : Spelt (joinWords kind) (kind.keywords.map .word) := by
  cases kind <;> exact spelt_words _ (by decide)

/-- A join behind a FROM clause reads as the tokens of both. -/
theorem speltSlots_push {s : Source} {kind : JoinKind} {factor : Factor} {condition : Expr}
    {ss fs cs : List Slot} (hs : SpeltSlots s.lexemes ss) (hfactor : SpeltSlots factor.lexemes fs)
    (hcondition : SpeltSlots condition.lexemes cs) :
    SpeltSlots (s.push (.mk kind factor condition)).lexemes
      (ss ++ keywords kind.keywords ++ fs ++ keywords ["ON"] ++ cs) := by
  have hright := Spelt.spaced (w := "ON") (by decide)
    ((spelt_joinWords kind).blank hfactor) hcondition
  have h := Spelt.blank hs hright
  unfold SpeltSlots
  rw [lexemes_push]
  simpa [tokens_keywords] using h

/-- A FROM clause reads as its tokens. -/
theorem speltSlots_source (n : Node) {s : Source} (hn : n.plain)
    (h : ((Generator.postgres folding context).source n).result = .ok s) :
    SpeltSlots s.lexemes (sourceSlots folding context n) := by
  have htable : ∀ t : Table, SpeltSlots (tableFactor (.postgres folding) context t).lexemes
      ((t.tokens folding context).map .fixed) := by
    intro t
    rw [SpeltSlots, tokens_fixed]
    exact speltSlots_table folding context t
  induction n using Node.source_induction generalizing s with
  | table t =>
    cases h
    simpa [sourceSlots, Source.lexemes, joinsLexemes, Generator.postgres] using htable t
  | join kind left right condition ihl ihr =>
    simp only [Node.plain, Bool.and_eq_true] at hn
    cases right with
    | table t =>
      simp only [Generator.source, Traced.result_bind_eq_ok_iff, Traced.result_pure_eq_ok_iff,
        exists_eq_left'] at h
      obtain ⟨l, hl, c, hc, rfl⟩ := h
      exact speltSlots_push (ihl hn.1.1 hl) (htable t) (speltSlots_expr folding context hn.2 hc)
    | join kind' left' right' condition' =>
      rw [Generator.source] at h
      simp only [Traced.result_bind_eq_ok_iff, Traced.result_pure_eq_ok_iff, exists_eq_left'] at h
      obtain ⟨l, hl, nested, hnested, c, hc, rfl⟩ := h
      have hright := ihr hn.1.2 hnested
      have hbracket : SpeltSlots (Factor.nested nested).lexemes (bracketed .fixed
          (sourceSlots folding context (.join kind' left' right' condition'))) := by
        have h := Spelt.bracket spelt_nil hright
        rwa [List.nil_append, List.nil_append, show (id : Token → Token) = Slot.token ∘ Slot.fixed from rfl,
          bracketed_map] at h
      rw [sourceSlots]
      · exact speltSlots_push (ihl hn.1.1 hl) hbracket (speltSlots_expr folding context hn.2 hc)
      · intro t ht
        cases ht
    | _ =>
      -- on the right of a join, too, only a table or a join is a FROM clause
      simp only [Generator.source, Traced.result_bind_eq_ok_iff, Traced.result_refuse] at h
      obtain ⟨_, _, _, hrefused, _⟩ := h
      cases hrefused
  | other n hother =>
    rw [Generator.source_eq_refuse _ hother] at h
    cases h

/-- The parts of a grouping or of a list read as their tokens. -/
theorem speltAll_exprs {ns : List Node} {es : List Expr} (hn : allPlain ns)
    (h : ((Generator.postgres folding context).exprs ns).result = .ok es) :
    SpeltAll (exprsLexemes es) ((ns.map (·.expressionSlots folding)).map (List.map Slot.token)) := by
  have hreads := reads_exprs folding context ns hn h
  rwa [ReadsAll, show (id : Token → Token) = Slot.token ∘ Slot.fixed from rfl, yieldAll_map,
    yieldAll_phrases] at hreads

/-- A GROUP BY reads as its keys behind the two words; without keys it would have been refused. -/
theorem speltSlots_grouping {keys : List Node} {es : List Expr} (hn : allPlain keys)
    (h : ((Generator.postgres folding context).groupKeys keys).result = .ok es) :
    es ≠ [] ∧ SpeltSlots (groupByLexemes es) (groupingSlots folding (some keys)) := by
  cases keys with
  | nil => simp [Generator.groupKeys] at h
  | cons key keys =>
    have hes : ((Generator.postgres folding context).exprs (key :: keys)).result = .ok es := h
    have hall := speltAll_exprs folding context hn hes
    have hclause := spelt_clause ["GROUP", "BY"] (by decide) (spelt_separated hall)
    refine ⟨?_, ?_⟩
    · rintro rfl
      cases hall
    · rw [SpeltSlots, groupingSlots, List.map_append, tokens_keywords, tokens_listedSlots]
      exact hclause

/-- A sort key reads as its tokens. -/
theorem spelt_sortKey {key : Node} {e : Expr} (hn : key.plain)
    (h : ((Generator.postgres folding context).expr key).result = .ok e) (ascending nullsLast : Bool) :
    SpeltSlots (e.lexemes ++ (if !ascending then [.blank, .word "DESC"] else []) ++
        nullsLexemes (if nullsLast = NullSorting.high.nullsLast ascending then none
          else some (if nullsLast then .last else .first)))
      (sortSlots folding (.mk key ascending nullsLast)) := by
  have hkey := speltSlots_expr folding context hn h
  have hdesc := Spelt.blank hkey (spelt_word (w := "DESC") (by decide))
  have hfirst := spelt_words ["NULLS", "FIRST"] (by decide)
  have hlast := spelt_words ["NULLS", "LAST"] (by decide)
  unfold SpeltSlots sortSlots
  simp only [List.map_append]
  -- where NULLs stand is said only if it is not where they stand in this direction anyway
  cases ascending <;> cases nullsLast
  · simpa [nullsLexemes, NullSorting.nullsLast, tokens_keywords] using hdesc
  · simpa [nullsLexemes, NullSorting.nullsLast, tokens_keywords, following] using hdesc.blank hlast
  · simpa [nullsLexemes, NullSorting.nullsLast, tokens_keywords, following] using
      Spelt.blank hkey hfirst
  · simpa [nullsLexemes, NullSorting.nullsLast, tokens_keywords, SpeltSlots] using hkey

/-- Sort keys one by one, each with its direction and the place of nulls. -/
theorem speltAll_sortKeys {items : List SortItem} {keys : List SortKey} (hn : keysPlain items)
    (h : ((Generator.postgres folding context).sortKeysFrom items).result = .ok keys) :
    SpeltAll (sortKeysLexemes keys) ((items.map (sortSlots folding)).map (List.map Slot.token)) := by
  induction items generalizing keys with
  | nil =>
    simp only [Generator.sortKeysFrom, Traced.result_pure_eq_ok_iff] at h
    subst h
    exact .nil
  | cons item items ih =>
    cases item with
    | mk key ascending nullsLast =>
      simp only [keysPlain, Bool.and_eq_true] at hn
      simp only [Generator.sortKeysFrom, Traced.result_bind_eq_ok_iff, Traced.result_pure_eq_ok_iff] at h
      obtain ⟨e, he, rest, hrest, rfl⟩ := h
      exact .cons (spelt_sortKey folding context hn.1 he ascending nullsLast) (ih hn.2 hrest)

/-- An ORDER BY reads as its keys behind the two words; without keys it would have been refused. -/
theorem speltSlots_ordering {items : List SortItem} {keys : List SortKey} (hn : keysPlain items)
    (h : ((Generator.postgres folding context).optionalSortKeys (some items)).result = .ok keys) :
    keys ≠ [] ∧ SpeltSlots (orderByLexemes keys) (orderingSlots folding (some items)) := by
  cases items with
  | nil => simp [Generator.optionalSortKeys] at h
  | cons item items =>
    have hkeys : ((Generator.postgres folding context).sortKeysFrom (item :: items)).result =
        .ok keys := h
    have hall := speltAll_sortKeys folding context hn hkeys
    have hclause := spelt_clause ["ORDER", "BY"] (by decide) (spelt_separated hall)
    refine ⟨?_, ?_⟩
    · rintro rfl
      cases hall
    · rw [SpeltSlots, orderingSlots, List.map_append, tokens_keywords, tokens_listedSlots]
      exact hclause

theorem speltSlots_limit (l : Limit) : SpeltSlots (limitLexemes l) (limitSlots (some l)) := by
  have hcount := spelt_intText l.count.toNat
  rw [SpeltSlots, limitSlots, tokens_fixed]
  unfold limitLexemes limitTokens
  cases l.offset with
  | none => exact spelt_clause ["LIMIT"] (by decide) hcount
  | some n =>
    have hoffset := spelt_clause ["OFFSET"] (by decide) (spelt_intText n.toNat)
    exact spelt_clause ["LIMIT"] (by decide) (hcount.blank hoffset)

/-! ## Statements -/

/-- A clause that may be absent reads as its tokens, behind what comes before it. -/
theorem SpeltSlots.clause {before clause : List Lexeme} {ss cs : List Slot}
    (hbefore : SpeltSlots before ss) (hclause : SpeltSlots clause cs) :
    SpeltSlots (before ++ following clause) (ss ++ cs) := by
  unfold SpeltSlots
  rw [List.map_append]
  exact Spelt.blank hbefore hclause

/-- A clause with a condition behind what was written before, or nothing if there is no condition. -/
theorem SpeltSlots.condition {before : List Lexeme} {ss : List Slot} {w : String} (hw : isWord w)
    (hbefore : SpeltSlots before ss) {n : Option Node} {e : Option Expr} : optionPlain n →
    ((Generator.postgres folding context).optionalExpr n).result = .ok e →
    SpeltSlots (before ++ match e with
      | some e => following (Sql.clause [w] e.lexemes)
      | none => []) (ss ++ conditionSlots folding w n) := by
  intro hn h
  cases n with
  | none =>
    simp only [Generator.optionalExpr, Traced.result_pure_eq_ok_iff] at h
    subst h
    simpa [conditionSlots] using hbefore
  | some n =>
    simp only [Generator.optionalExpr, Traced.result_bind_eq_ok_iff, Traced.result_pure_eq_ok_iff] at h
    obtain ⟨e, he, rfl⟩ := h
    refine hbefore.clause ?_
    rw [SpeltSlots, conditionSlots, List.map_append, tokens_keywords]
    exact spelt_clause [w] (by simpa using hw) (speltSlots_expr folding context hn he)

/-- A GROUP BY behind what was written before, or nothing if the statement does not group. -/
theorem SpeltSlots.grouping {before : List Lexeme} {ss : List Slot} (hbefore : SpeltSlots before ss)
    {keys : Option (List Node)} {es : List Expr} (hn : groupingPlain keys)
    (h : (Generator.postgres folding context).grouping keys = .ok es) :
    SpeltSlots (before ++ if es.isEmpty then [] else following (groupByLexemes es))
      (ss ++ groupingSlots folding keys) := by
  cases keys with
  | none =>
    cases h
    simpa [groupingSlots] using hbefore
  | some keys =>
    obtain ⟨hne, hes⟩ := speltSlots_grouping folding context hn h
    simpa [hne] using hbefore.clause hes

/-- An ORDER BY behind what was written before, or nothing if the statement is not ordered. -/
theorem SpeltSlots.ordering {before : List Lexeme} {ss : List Slot} (hbefore : SpeltSlots before ss)
    {items : Option (List SortItem)} {keys : List SortKey} (hn : orderingPlain items)
    (h : ((Generator.postgres folding context).optionalSortKeys items).result = .ok keys) :
    SpeltSlots (before ++ if keys.isEmpty then [] else following (orderByLexemes keys))
      (ss ++ orderingSlots folding items) := by
  cases items with
  | none =>
    simp only [Generator.optionalSortKeys, Traced.result_pure_eq_ok_iff] at h
    subst h
    simpa [orderingSlots] using hbefore
  | some items =>
    obtain ⟨hne, hkeys⟩ := speltSlots_ordering folding context hn h
    simpa [hne] using hbefore.clause hkeys

/-- **A statement reads as its tokens.** -/
theorem speltSlots_statement {list : SelectList} {relation : Node} {filter : Option Node}
    {keys : Option (List Node)} {having : Option Node} {ordering : Option (List SortItem)}
    {bound : Option Limit} {q : Query}
    (hn : (Node.select list relation filter keys having ordering bound).plain)
    (h : ((Generator.postgres folding context).statement list relation filter keys having ordering
      bound).result = .ok q) :
    SpeltSlots q.lexemes
      ((Node.select list relation filter keys having ordering bound).slots folding context) := by
  have hrelation : relation.isRelation := by
    cases hr : relation.isRelation with
    | true => rfl
    | false => simp [Generator.statement, hr] at h
  simp only [Node.plain, Bool.and_eq_true] at hn
  obtain ⟨⟨⟨⟨⟨hlist, hsource⟩, hfilter⟩, hkeys⟩, hhaving⟩, hordering⟩ := hn
  simp only [Generator.result_statement _ hrelation, Outcome.bind_eq_ok_iff, Except.ok.injEq] at h
  obtain ⟨items, hitems, source, hsrc, filter', hfilter', groupBy, hgroup, having', hhaving', orderBy,
    horder, rfl⟩ := h
  have hselect : SpeltSlots (clause ["SELECT"] (itemsLexemes items) ++
      following (clause ["FROM"] source.lexemes))
      (keywords ["SELECT"] ++ list.slots folding (some relation) ++ keywords ["FROM"] ++
        sourceSlots folding context relation) := by
    have h := Spelt.blank
      (spelt_clause ["SELECT"] (by decide) (speltSlots_selectItems folding context hlist hitems))
      (spelt_clause ["FROM"] (by decide) (speltSlots_source folding context relation hsource hsrc))
    unfold SpeltSlots
    simpa [tokens_keywords, following] using h
  -- each clause behind the ones before it; one that is absent adds neither lexemes nor tokens
  have hwhere := SpeltSlots.condition folding context (w := "WHERE") (by decide) hselect hfilter hfilter'
  have hgrouped := hwhere.grouping folding context hkeys hgroup
  have hhaved := SpeltSlots.condition folding context (w := "HAVING") (by decide) hgrouped hhaving hhaving'
  have hordered := hhaved.ordering folding context hordering horder
  cases bound with
  | none =>
    show SpeltSlots (_ ++ []) (_ ++ [])
    rw [List.append_nil, List.append_nil]
    exact hordered
  | some l => exact hordered.clause (speltSlots_limit l)

/-- **Everything that is written reads as the tokens of its tree.** -/
theorem spelt_lexemes {n : Node} {ls : List Lexeme} (hn : n.plain)
    (h : ((Generator.postgres folding context).lexemes n).result = .ok ls) :
    SpeltSlots ls (n.slots folding context) := by
  cases n with
  | select list relation filter keys having ordering bound =>
    simp only [Generator.lexemes, Traced.result_bind_eq_ok_iff, Traced.result_pure_eq_ok_iff] at h
    obtain ⟨q, hq, rfl⟩ := h
    exact speltSlots_statement folding context hn hq
  | selectList list =>
    simp only [Generator.lexemes, Traced.result_bind_eq_ok_iff, Traced.result_pure_eq_ok_iff] at h
    obtain ⟨items, hitems, rfl⟩ := h
    exact speltSlots_selectItems folding context hn hitems
  | table t =>
    simp only [Generator.lexemes, Traced.result_bind_eq_ok_iff, Traced.result_pure_eq_ok_iff] at h
    obtain ⟨s, hs, rfl⟩ := h
    exact speltSlots_source folding context (.table t) hn hs
  | join kind left right condition =>
    simp only [Generator.lexemes, Traced.result_bind_eq_ok_iff, Traced.result_pure_eq_ok_iff] at h
    obtain ⟨s, hs, rfl⟩ := h
    exact speltSlots_source folding context (.join kind left right condition) hn hs
  | orderBy items =>
    simp only [Generator.lexemes, Traced.result_bind_eq_ok_iff, Traced.result_pure_eq_ok_iff] at h
    obtain ⟨keys, hkeys, rfl⟩ := h
    exact (speltSlots_ordering folding context hn hkeys).2
  | groupBy keys =>
    simp only [Generator.lexemes, Traced.result_bind_eq_ok_iff, Traced.result_pure_eq_ok_iff] at h
    obtain ⟨es, hes, rfl⟩ := h
    exact (speltSlots_grouping folding context hn hes).2
  | limit l =>
    simp only [Generator.lexemes, Traced.result_pure_eq_ok_iff] at h
    subst h
    exact speltSlots_limit l
  | _ =>
    simp only [Generator.lexemes, Traced.result_bind_eq_ok_iff, Traced.result_pure_eq_ok_iff] at h
    obtain ⟨e, he, rfl⟩ := h
    exact speltSlots_expr folding context hn he

/-- **PostgreSQL finds in a compiled text the tokens of the tree.** -/
theorem Adapter.lex_compile {a : Adapter} {n : Node} {sql : String} (hn : n.plain)
    (h : (a.compile context n).result = .ok sql) :
    lex sql.toList = some ((n.slots a.folding context).map Slot.token) := by
  rw [Adapter.compile, Generator.result_generate] at h
  cases hlexemes : ((Generator.postgres a.folding context).lexemes n).result with
  | error e =>
    rw [hlexemes] at h
    cases h
  | ok ls =>
    rw [hlexemes] at h
    cases h
    have hspelt : Spells (Lexeme.allChars ls) ((n.slots a.folding context).map Slot.token) :=
      spelt_lexemes a.folding context hn hlexemes
    simpa [render] using hspelt.lex_eq

end Reading

end Pushdown
