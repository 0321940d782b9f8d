import Pushdown.Proofs.Outcome

/-!
# `Proofs.Generation.Alike` — generators that write a tree alike

A generator is a recursion over the tree, and what is its own shows only at some nodes: at a call of a function by the
rules of its dialect, at a string aggregation and in a select list by its projection. Two generators that do the
same at the nodes of a tree write the same text for it, with the same refusals and the same events. The nodes are
described by a test, so that one recursion serves every comparison of two generators.

## Contents

* `Node.every` — a test of every node of a tree.
* `Alike` — generators that do the same at the nodes that pass a test.
* `Alike.expr`, `Alike.source`, `Alike.selectItems` — the parts of a statement.
* `Alike.generate` — the text of any node.
-/

namespace Pushdown

/-! ## Every node of a tree -/

section Every

variable (ok : Node → Bool)

mutual

/-- The test holds of the node and of every node below it. -/
def Node.every : Node → Bool
  | .column c => ok (.column c)
  | .literal l => ok (.literal l)
  | .table t => ok (.table t)
  | .limit l => ok (.limit l)
  | .predicate p => ok (.predicate p) && p.every
  | .scalar function arguments => ok (.scalar function arguments) && everyAll arguments
  | .extract unit argument => ok (.extract unit argument) && argument.every
  | .case basis branches otherwise =>
    ok (.case basis branches otherwise) && everyOption basis && everyBranch branches && everyOption otherwise
  | .cast argument type => ok (.cast argument type) && argument.every
  | .aggregate function arguments distinct => ok (.aggregate function arguments distinct) && everyAll arguments
  | .groupConcat argument distinct ordering separator =>
    ok (.groupConcat argument distinct ordering separator) && argument.every && everyOrdering ordering
  | .select list source filter keys having ordering limit =>
    ok (.select list source filter keys having ordering limit) && list.every && source.every &&
      everyOption filter && everyKeys keys && everyOption having && everyOrdering ordering
  | .selectList list => ok (.selectList list) && list.every
  | .join kind left right condition =>
    ok (.join kind left right condition) && left.every && right.every && condition.every
  | .orderBy items => ok (.orderBy items) && everyItem items
  | .groupBy keys => ok (.groupBy keys) && everyAll keys

def SelectList.every : SelectList → Bool
  | .anyValue | .wildcard => true
  | .expressions items => everyAll items

def Predicate.every : Predicate → Bool
  | .and operands | .or operands => everyAll operands
  | .not operand | .isNull operand | .isNotNull operand => operand.every
  | .equal left right | .notEqual left right | .less left right | .lessEqual left right =>
    left.every && right.every
  | .like value pattern escape => value.every && pattern.every && everyOption escape
  | .regexp value pattern => value.every && pattern.every
  | .between value low high => value.every && low.every && high.every
  | .inList value candidates => value.every && everyAll candidates

def everyAll : List Node → Bool
  | [] => true
  | n :: ns => n.every && everyAll ns

def everyOption : Option Node → Bool
  | none => true
  | some n => n.every

def everyKeys : Option (List Node) → Bool
  | none => true
  | some keys => everyAll keys

def everyBranch : List Branch → Bool
  | [] => true
  | .mk condition result :: rest => condition.every && result.every && everyBranch rest

def everyItem : List SortItem → Bool
  | [] => true
  | .mk key _ _ :: rest => key.every && everyItem rest

def everyOrdering : Option (List SortItem) → Bool
  | none => true
  | some items => everyItem items

end

end Every

/-! ## Generators side by side -/

/-- What the node selects, if it is a statement or a select list. -/
def Node.selection? : Node → Option SelectList
  | .select list .. => some list
  | .selectList list => some list
  | _ => none

/-- The generators do the same at every node that passes the test: what does not depend on the node is the same for
both, and the rest is the same where a node that passes asks for it. -/
structure Alike (ok : Node → Bool) (g h : Generator) : Prop where
  column : columnExpr g.dialect = columnExpr h.dialect
  literal : literalExpr g.dialect = literalExpr h.dialect
  separator : separatorExpr g.dialect = separatorExpr h.dialect
  sortKey : sortKey g.dialect = sortKey h.dialect
  regexp : g.dialect.regexpLike = h.dialect.regexpLike
  table : tableFactor g.dialect g.context = tableFactor h.dialect h.context
  call : ∀ function arguments, ok (.scalar function arguments) →
    scalarExpr g.dialect function = scalarExpr h.dialect function
  concatenation : ∀ argument distinct ordering separator, ok (.groupConcat argument distinct ordering separator) →
    g.projection.concatenation = h.projection.concatenation
  anyValue : ∀ n, ok n → n.selection? = some .anyValue → g.projection.anyValue = h.projection.anyValue
  wildcard : ∀ n, ok n → n.selection? = some .wildcard → g.projection.wildcard = h.projection.wildcard
  selected : ∀ n items c, ok n → n.selection? = some (.expressions items) → .column c ∈ items →
    g.projection.column c = h.projection.column c

namespace Alike

variable {ok : Node → Bool} {g h : Generator}

/-! ## Expressions -/

mutual

/-- An expression. -/
theorem expr (same : Alike ok g h) : ∀ n : Node, n.every ok → g.expr n = h.expr n
  | .column _, _ => by
    simp only [Generator.expr, same.column]
  | .literal _, _ => by
    simp only [Generator.expr, same.literal]
  | .predicate p, hn => by
    simp only [Node.every, Bool.and_eq_true] at hn
    simp only [Generator.expr, predicate same p hn.2]
  | .scalar function arguments, hn => by
    simp only [Node.every, Bool.and_eq_true] at hn
    simp only [Generator.expr, exprs same arguments hn.2, same.call function arguments hn.1]
  | .extract _ argument, hn => by
    simp only [Node.every, Bool.and_eq_true] at hn
    simp only [Generator.expr, expr same argument hn.2]
  | .case basis bs otherwise, hn => by
    simp only [Node.every, Bool.and_eq_true] at hn
    obtain ⟨⟨⟨-, hbasis⟩, hbranches⟩, hotherwise⟩ := hn
    simp only [Generator.expr, branches same bs hbranches, optionalExpr same basis hbasis,
      optionalExpr same otherwise hotherwise]
  | .cast argument _, hn => by
    simp only [Node.every, Bool.and_eq_true] at hn
    simp only [Generator.expr, expr same argument hn.2]
  | .aggregate _ arguments _, hn => by
    simp only [Node.every, Bool.and_eq_true] at hn
    simp only [Generator.expr, exprs same arguments hn.2]
  | .groupConcat argument distinct ordering separator, hn => by
    simp only [Node.every, Bool.and_eq_true] at hn
    obtain ⟨⟨hok, hargument⟩, hordering⟩ := hn
    have hway := same.concatenation argument distinct ordering separator hok
    simp only [Generator.expr, expr same argument hargument, optionalSortKeys same ordering hordering,
      same.separator, hway]
  -- a clause is refused by both
  | .select .., _ => rfl
  | .selectList .., _ => rfl
  | .table .., _ => rfl
  | .join .., _ => rfl
  | .orderBy .., _ => rfl
  | .groupBy .., _ => rfl
  | .limit .., _ => rfl

theorem exprs (same : Alike ok g h) : ∀ ns : List Node, everyAll ok ns → g.exprs ns = h.exprs ns
  | [], _ => rfl
  | n :: ns, hn => by
    simp only [everyAll, Bool.and_eq_true] at hn
    simp only [Generator.exprs, expr same n hn.1, exprs same ns hn.2]

theorem optionalExpr (same : Alike ok g h) :
    ∀ n : Option Node, everyOption ok n → g.optionalExpr n = h.optionalExpr n
  | none, _ => rfl
  | some n, hn => by
    simp only [Generator.optionalExpr, expr same n hn]

/-- A condition is written alike. One case for each kind of condition; only a comparison with a pattern asks the
generator for more than its operands. -/
theorem predicate (same : Alike ok g h) : ∀ p : Predicate, p.every ok → g.predicate p = h.predicate p
  | .and operands, hp => by
    simp only [Generator.predicate, exprs same operands hp]
  | .or operands, hp => by
    simp only [Generator.predicate, exprs same operands hp]
  | .not operand, hp => by
    simp only [Generator.predicate, expr same operand hp]
  | .equal left right, hp => by
    simp only [Predicate.every, Bool.and_eq_true] at hp
    simp only [Generator.predicate, expr same left hp.1, expr same right hp.2]
  | .notEqual left right, hp => by
    simp only [Predicate.every, Bool.and_eq_true] at hp
    simp only [Generator.predicate, expr same left hp.1, expr same right hp.2]
  | .less left right, hp => by
    simp only [Predicate.every, Bool.and_eq_true] at hp
    simp only [Generator.predicate, expr same left hp.1, expr same right hp.2]
  | .lessEqual left right, hp => by
    simp only [Predicate.every, Bool.and_eq_true] at hp
    simp only [Generator.predicate, expr same left hp.1, expr same right hp.2]
  | .like value pattern _, hp => by
    simp only [Predicate.every, Bool.and_eq_true] at hp
    simp only [Generator.predicate, expr same value hp.1.1, expr same pattern hp.1.2]
  | .regexp value pattern, hp => by
    simp only [Predicate.every, Bool.and_eq_true] at hp
    simp only [Generator.predicate, expr same value hp.1, expr same pattern hp.2, same.regexp]
  | .between value low high, hp => by
    simp only [Predicate.every, Bool.and_eq_true] at hp
    simp only [Generator.predicate, expr same value hp.1.1, expr same low hp.1.2, expr same high hp.2]
  | .inList value candidates, hp => by
    simp only [Predicate.every, Bool.and_eq_true] at hp
    simp only [Generator.predicate, expr same value hp.1, exprs same candidates hp.2]
  | .isNull operand, hp => by
    simp only [Generator.predicate, expr same operand hp]
  | .isNotNull operand, hp => by
    simp only [Generator.predicate, expr same operand hp]

theorem branches (same : Alike ok g h) : ∀ bs : List Branch, everyBranch ok bs → g.branches bs = h.branches bs
  | [], _ => rfl
  | .mk condition result :: rest, hbs => by
    simp only [everyBranch, Bool.and_eq_true] at hbs
    simp only [Generator.branches, expr same condition hbs.1.1, expr same result hbs.1.2, branches same rest hbs.2]

theorem sortKeysFrom (same : Alike ok g h) :
    ∀ items : List SortItem, everyItem ok items → g.sortKeysFrom items = h.sortKeysFrom items
  | [], _ => rfl
  | .mk key _ _ :: rest, hitems => by
    simp only [everyItem, Bool.and_eq_true] at hitems
    simp only [Generator.sortKeysFrom, expr same key hitems.1, sortKeysFrom same rest hitems.2, same.sortKey]

theorem optionalSortKeys (same : Alike ok g h) : ∀ ordering : Option (List SortItem), everyOrdering ok ordering →
    g.optionalSortKeys ordering = h.optionalSortKeys ordering
  | none, _ => rfl
  | some items, hordering => by
    simp only [Generator.optionalSortKeys, sortKeysFrom same items hordering]

end

/-! ## Clauses -/

theorem groupKeys (same : Alike ok g h) (keys : List Node) (hkeys : everyAll ok keys) :
    g.groupKeys keys = h.groupKeys keys := by
  unfold Generator.groupKeys
  rw [same.exprs keys hkeys]

/-- A FROM clause. -/
theorem source (same : Alike ok g h) (n : Node) (hn : n.every ok) : g.source n = h.source n := by
  induction n using Node.source_induction with
  | table t => simp only [Generator.source, same.table]
  | join kind left right condition ihleft ihright =>
    simp only [Node.every, Bool.and_eq_true] at hn
    obtain ⟨⟨⟨-, hleft⟩, hright⟩, hcondition⟩ := hn
    have hoperand : g.operand right = h.operand right := by
      have hsource := ihright hright
      cases right with
      | table t => simp only [Generator.operand, same.table]
      | _ => exact congrArg (· >>= fun nested => pure (Sql.Factor.nested nested)) hsource
    rw [Generator.source_join, Generator.source_join, ihleft hleft, hoperand, same.expr condition hcondition]
  | other n hother => rw [g.source_eq_refuse hother, h.source_eq_refuse hother]

/-- The items of a select list, whose columns are written by the projection. -/
theorem projectedItems (same : Alike ok g h) (ns : List Node)
    (hcolumns : ∀ c, .column c ∈ ns → g.projection.column c = h.projection.column c) (hn : everyAll ok ns) :
    g.projectedItems ns = h.projectedItems ns := by
  induction ns with
  | nil => rfl
  | cons n ns ih =>
    simp only [everyAll, Bool.and_eq_true] at hn
    have hitem : g.projected n = h.projected n := by
      cases n with
      | column c => exact hcolumns c List.mem_cons_self
      | _ => exact congrArg (· >>= fun e => pure (Sql.Item.expr e)) (same.expr _ hn.1)
    rw [Generator.projectedItems, Generator.projectedItems, hitem,
      ih (fun c hc => hcolumns c (List.mem_cons_of_mem n hc)) hn.2]

/-- What a node selects. -/
theorem selectItems (same : Alike ok g h) {n : Node} {list : SelectList} (hok : ok n)
    (hselection : n.selection? = some list) (hlist : list.every ok) (relation : Option Node) :
    g.selectItems relation list = h.selectItems relation list := by
  cases list with
  | anyValue => rw [Generator.selectItems, Generator.selectItems, same.anyValue n hok hselection]
  | wildcard => rw [Generator.selectItems, Generator.selectItems, same.wildcard n hok hselection]
  | expressions items =>
    rw [Generator.selectItems, Generator.selectItems,
      same.projectedItems items (fun c hc => same.selected n items c hok hselection hc) hlist]

/-! ## Statements -/

/-- Any node is written alike: statements by their clauses, all others as an expression or a clause of its own. -/
theorem lexemes (same : Alike ok g h) (n : Node) (hn : n.every ok) : g.lexemes n = h.lexemes n := by
  have hwhole := hn
  cases n with
  | select list relation filter keys having ordering limit =>
    simp only [Node.every, Bool.and_eq_true] at hn
    obtain ⟨⟨⟨⟨⟨⟨hok, hlist⟩, hsource⟩, hfilter⟩, hkeys⟩, hhaving⟩, hordering⟩ := hn
    rw [Generator.lexemes, Generator.lexemes]
    unfold Generator.statement
    rw [same.selectItems hok rfl hlist, same.source relation hsource, same.optionalExpr filter hfilter,
      same.optionalExpr having hhaving, same.optionalSortKeys ordering hordering]
    cases keys with
    | none => rfl
    | some keys => simp only [same.groupKeys keys hkeys]
  | selectList list =>
    simp only [Node.every, Bool.and_eq_true] at hn
    rw [Generator.lexemes, Generator.lexemes, same.selectItems hn.1 rfl hn.2]
  | table t => rw [Generator.lexemes, Generator.lexemes, same.source _ hwhole]
  | join kind left right condition => rw [Generator.lexemes, Generator.lexemes, same.source _ hwhole]
  | orderBy items =>
    simp only [Node.every, Bool.and_eq_true] at hn
    rw [Generator.lexemes, Generator.lexemes, same.optionalSortKeys (some items) hn.2]
  | groupBy keys =>
    simp only [Node.every, Bool.and_eq_true] at hn
    rw [Generator.lexemes, Generator.lexemes, same.groupKeys keys hn.2]
  | limit l => rfl
  | _ => exact congrArg (· >>= fun e => pure (Sql.Expr.lexemes e)) (same.expr _ hwhole)

/-- **A tree whose nodes all pass the test is written alike**, with the same refusals and the same events. -/
theorem generate (same : Alike ok g h) (hname : g.dialect.name = h.dialect.name) (n : Node) (hn : n.every ok) :
    g.generate n = h.generate n := by
  unfold Generator.generate
  rw [same.lexemes n hn, hname]

end Alike

end Pushdown
