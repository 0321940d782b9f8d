import Pushdown.Proofs.Generation.WellFormed

/-!
# `Proofs.Query.Erase` — query trees without the texts that come from outside

Two trees have the same shape if they become equal once the contents of string constants, of separators, of
escapes and the names of columns are blanked out. Blanking them out changes nothing about which trees can be
written.

## Contents

* `Node.erased` — a tree without its texts.
* `expressible_erased`, `wellFormed_erased` — the same trees can be written.
-/

namespace Pushdown

/-- The column without its name. -/
def ColumnMetadata.erased (c : ColumnMetadata) : ColumnMetadata := { c with name := "" }

/-- The reference without the name of its column. -/
def Column.erased (c : Column) : Column := { c with metadata := c.metadata.erased }

/-- The table without the names of its columns. -/
def Table.erased (t : Table) : Table :=
  { t with metadata := { t.metadata with columns := t.metadata.columns.map (·.erased) } }

/-- The constant without its text, if that is a string. -/
def Literal.erased : Literal → Literal
  | .string _ => .string ""
  | l => l

mutual

/-- The tree without the texts that come from outside. -/
def Node.erased : Node → Node
  | .column c => .column c.erased
  | .literal l => .literal l.erased
  | .predicate p => .predicate p.erased
  | .scalar function arguments => .scalar function (erasedAll arguments)
  | .extract unit argument => .extract unit argument.erased
  | .case basis branches otherwise =>
    .case (erasedOption basis) (erasedBranches branches) (erasedOption otherwise)
  | .cast argument type => .cast argument.erased type
  | .aggregate function arguments distinct => .aggregate function (erasedAll arguments) distinct
  | .groupConcat argument distinct ordering separator =>
    .groupConcat argument.erased distinct (erasedOrdering ordering) (separator.map fun _ => "")
  | .select list source filter keys having ordering limit =>
    .select list.erased source.erased (erasedOption filter) (erasedKeys keys) (erasedOption having)
      (erasedOrdering ordering) limit
  | .selectList list => .selectList list.erased
  | .table t => .table t.erased
  | .join kind left right condition => .join kind left.erased right.erased condition.erased
  | .orderBy items => .orderBy (erasedItems items)
  | .groupBy keys => .groupBy (erasedAll keys)
  | .limit l => .limit l

def SelectList.erased : SelectList → SelectList
  | .anyValue => .anyValue
  | .wildcard => .wildcard
  | .expressions items => .expressions (erasedAll items)

def Predicate.erased : Predicate → Predicate
  | .and operands => .and (erasedAll operands)
  | .or operands => .or (erasedAll operands)
  | .not operand => .not operand.erased
  | .equal left right => .equal left.erased right.erased
  | .notEqual left right => .notEqual left.erased right.erased
  | .less left right => .less left.erased right.erased
  | .lessEqual left right => .lessEqual left.erased right.erased
  | .like value pattern escape => .like value.erased pattern.erased (erasedOption escape)
  | .regexp value pattern => .regexp value.erased pattern.erased
  | .between value low high => .between value.erased low.erased high.erased
  | .inList value candidates => .inList value.erased (erasedAll candidates)
  | .isNull operand => .isNull operand.erased
  | .isNotNull operand => .isNotNull operand.erased

def erasedAll : List Node → List Node
  | [] => []
  | n :: ns => n.erased :: erasedAll ns

def erasedOption : Option Node → Option Node
  | none => none
  | some n => some n.erased

def erasedKeys : Option (List Node) → Option (List Node)
  | none => none
  | some keys => some (erasedAll keys)

def erasedBranches : List Branch → List Branch
  | [] => []
  | .mk condition result :: rest => .mk condition.erased result.erased :: erasedBranches rest

def erasedItems : List SortItem → List SortItem
  | [] => []
  | .mk key ascending nullsLast :: rest => .mk key.erased ascending nullsLast :: erasedItems rest

def erasedOrdering : Option (List SortItem) → Option (List SortItem)
  | none => none
  | some items => some (erasedItems items)

end

/-! ## What can be written -/

theorem erasedAll_eq_map (ns : List Node) : erasedAll ns = ns.map (·.erased) := by
  induction ns with
  | nil => rfl
  | cons n ns ih => rw [erasedAll, ih, List.map_cons]

theorem length_erasedAll (ns : List Node) : (erasedAll ns).length = ns.length := by
  rw [erasedAll_eq_map, List.length_map]

theorem isEmpty_erasedAll (ns : List Node) : (erasedAll ns).isEmpty = ns.isEmpty := by
  cases ns <;> rfl

theorem isEmpty_erasedBranches (bs : List Branch) : (erasedBranches bs).isEmpty = bs.isEmpty := by
  cases bs with
  | nil => rfl
  | cons b bs =>
    cases b
    rfl

theorem isEmpty_erasedItems (items : List SortItem) : (erasedItems items).isEmpty = items.isEmpty := by
  cases items with
  | nil => rfl
  | cons item items =>
    cases item
    rfl

/-- Without its text, a text is still a text. -/
theorem isEscape_erasedOption (escape : Option Node) :
    isEscape (erasedOption escape) = isEscape escape := by
  cases escape with
  | none => rfl
  | some n =>
    cases n with
    | literal l => cases l <;> rfl
    | _ => rfl

mutual

/-- The same nodes may stand as an expression. -/
theorem expressible_erased : ∀ n : Node, n.erased.expressible = n.expressible
  | .column _ => rfl
  | .literal _ => rfl
  | .predicate p => by simp [Node.erased, Node.expressible, expressible_erasedPredicate p]
  | .scalar _ arguments => by
    simp [Node.erased, Node.expressible, length_erasedAll, expressible_erasedAll arguments]
  | .extract _ argument => by simp [Node.erased, Node.expressible, expressible_erased argument]
  | .case basis branches otherwise => by
    simp [Node.erased, Node.expressible, isEmpty_erasedBranches, expressible_erasedBranches branches,
      expressible_erasedOption basis, expressible_erasedOption otherwise]
  | .cast argument _ => by simp [Node.erased, Node.expressible, expressible_erased argument]
  | .aggregate _ arguments _ => by
    simp [Node.erased, Node.expressible, expressible_erasedAll arguments]
  | .groupConcat argument _ _ _ => by simp [Node.erased, Node.expressible, expressible_erased argument]
  | .select _ _ _ _ _ _ _ => by simp [Node.erased, Node.expressible]
  | .selectList _ => by simp [Node.erased, Node.expressible]
  | .table _ => by simp [Node.erased, Node.expressible]
  | .join _ _ _ _ => by simp [Node.erased, Node.expressible]
  | .orderBy _ => by simp [Node.erased, Node.expressible]
  | .groupBy _ => by simp [Node.erased, Node.expressible]
  | .limit _ => by simp [Node.erased, Node.expressible]

/-- A condition can be written if and only if it can be without its texts. -/
theorem expressible_erasedPredicate : ∀ p : Predicate, p.erased.expressible = p.expressible
  | .and operands => by
    simp [Predicate.erased, Predicate.expressible, isEmpty_erasedAll, expressible_erasedAll operands]
  | .or operands => by
    simp [Predicate.erased, Predicate.expressible, isEmpty_erasedAll, expressible_erasedAll operands]
  | .not operand => by simp [Predicate.erased, Predicate.expressible, expressible_erased operand]
  | .equal left right => by
    simp [Predicate.erased, Predicate.expressible, expressible_erased left, expressible_erased right]
  | .notEqual left right => by
    simp [Predicate.erased, Predicate.expressible, expressible_erased left, expressible_erased right]
  | .less left right => by
    simp [Predicate.erased, Predicate.expressible, expressible_erased left, expressible_erased right]
  | .lessEqual left right => by
    simp [Predicate.erased, Predicate.expressible, expressible_erased left, expressible_erased right]
  | .like value pattern escape => by
    simp [Predicate.erased, Predicate.expressible, expressible_erased value, expressible_erased pattern,
      isEscape_erasedOption]
  | .regexp value pattern => by
    simp [Predicate.erased, Predicate.expressible, expressible_erased value, expressible_erased pattern]
  | .between value low high => by
    simp [Predicate.erased, Predicate.expressible, expressible_erased value, expressible_erased low,
      expressible_erased high]
  | .inList value candidates => by
    simp [Predicate.erased, Predicate.expressible, isEmpty_erasedAll, expressible_erased value,
      expressible_erasedAll candidates]
  | .isNull operand => by simp [Predicate.erased, Predicate.expressible, expressible_erased operand]
  | .isNotNull operand => by simp [Predicate.erased, Predicate.expressible, expressible_erased operand]

theorem expressible_erasedAll : ∀ ns : List Node, allExpressible (erasedAll ns) = allExpressible ns
  | [] => rfl
  | n :: ns => by simp [erasedAll, allExpressible, expressible_erased n, expressible_erasedAll ns]

theorem expressible_erasedOption : ∀ n : Option Node,
    optionExpressible (erasedOption n) = optionExpressible n
  | none => rfl
  | some n => by simp [erasedOption, optionExpressible, expressible_erased n]

theorem expressible_erasedBranches : ∀ bs : List Branch,
    branchesExpressible (erasedBranches bs) = branchesExpressible bs
  | [] => rfl
  | .mk condition result :: rest => by
    simp [erasedBranches, branchesExpressible, expressible_erased condition, expressible_erased result,
      expressible_erasedBranches rest]

end

theorem keysExpressible_erased (items : List SortItem) :
    keysExpressible (erasedItems items) = keysExpressible items := by
  induction items with
  | nil => rfl
  | cons item items ih =>
    cases item with
    | mk key ascending nullsLast => simp [erasedItems, keysExpressible, expressible_erased key, ih]

theorem isOrdering_erased (ordering : Option (List SortItem)) :
    isOrdering (erasedOrdering ordering) = isOrdering ordering := by
  cases ordering with
  | none => rfl
  | some items => simp [erasedOrdering, isOrdering, isEmpty_erasedItems, keysExpressible_erased]

theorem isGrouping_erased (keys : Option (List Node)) : isGrouping (erasedKeys keys) = isGrouping keys := by
  cases keys with
  | none => rfl
  | some keys => simp [erasedKeys, isGrouping, isEmpty_erasedAll, expressible_erasedAll]

theorem isRelation_erased (n : Node) : n.erased.isRelation = n.isRelation := by
  cases n <;> rfl

theorem joinsTables_erased (n : Node) : n.erased.joinsTables = n.joinsTables := by
  induction n using Node.source_induction with
  | table t => rfl
  | join kind left right condition hleft hright =>
    simp [Node.erased, Node.joinsTables, hleft, hright, expressible_erased condition]
  | other n hn =>
    rw [Node.joinsTables_eq_false hn, Node.joinsTables_eq_false ((isRelation_erased n).trans hn)]

theorem tables_erased (n : Node) : n.erased.tables = n.tables.map (·.erased) := by
  induction n using Node.source_induction with
  | table t => rfl
  | join kind left right condition hleft hright =>
    simp [Node.erased, Node.tables, hleft, hright]
  | other n hn =>
    rw [Node.tables_eq_nil hn, Node.tables_eq_nil ((isRelation_erased n).trans hn), List.map_nil]

theorem readable_erased (c : ColumnMetadata) : c.erased.readable = c.readable := rfl

theorem projectable_erased (n : Node) : n.erased.projectable = n.projectable := by
  have hexpr := expressible_erased n
  cases n with
  | column c => rfl
  | _ => exact hexpr

/-- A select list can be written if and only if it can be without its texts; the notes of its columns are not among
them. -/
theorem wellFormed_erasedList (source : Option Node) (list : SelectList) :
    list.erased.wellFormed (erasedOption source) = list.wellFormed source := by
  cases list with
  | anyValue => rfl
  | wildcard =>
    cases source with
    | none => rfl
    | some source =>
      have hreadable : ∀ t : Table, (t.erased.metadata.columns.all (·.readable)) =
          t.metadata.columns.all (·.readable) := by
        intro t
        simp [Table.erased, Function.comp_def, readable_erased]
      simp only [SelectList.erased, erasedOption, SelectList.wellFormed, tables_erased, List.all_map,
        Function.comp_def, hreadable]
  | expressions items =>
    simp [SelectList.erased, SelectList.wellFormed, erasedAll_eq_map, Function.comp_def, projectable_erased]

/-- **The same trees can be written.** -/
theorem wellFormed_erased (n : Node) : n.erased.wellFormed = n.wellFormed := by
  have hexpr := expressible_erased n
  cases n with
  | select list source filter keys having ordering limit =>
    have hlist := wellFormed_erasedList (some source) list
    rw [erasedOption] at hlist
    simp [Node.erased, Node.wellFormed, joinsTables_erased, hlist, expressible_erasedOption,
      isGrouping_erased, isOrdering_erased]
  | selectList list => exact wellFormed_erasedList none list
  | table t => rfl
  | join kind left right condition =>
    have h := joinsTables_erased (.join kind left right condition)
    simpa [Node.erased, Node.wellFormed] using h
  | orderBy items => exact isOrdering_erased (some items)
  | groupBy keys => exact isGrouping_erased (some keys)
  | limit l => rfl
  | _ => simpa [Node.erased, Node.wellFormed] using hexpr

end Pushdown
