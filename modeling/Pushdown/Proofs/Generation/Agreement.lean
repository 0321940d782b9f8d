import Pushdown.Proofs.Generation.Alike
import Pushdown.Proofs.Generation.Tokens

/-!
# `Proofs.Generation.Agreement` — where PostgreSQL's generator and the standard one write the same

Both generators are one and the same recursion over the tree; they differ in what they do with a select list and with
a string aggregation. The recursion always comes back to the generator that it started with, so that the difference
shows at every depth, but only there: a tree without string aggregation, without `*` and without columns that need a
cast is written in the same way by both, with the same refusals and the same events.

## Contents

* `Node.ordinary` — nodes that both generators treat alike.
* `alike_standard` — the two generators side by side.
* `generate_agrees` — the text of any node.
-/

namespace Pushdown

/-! ## Ordinary nodes -/

/-- The node is no column, or a column that needs no cast in a select list. -/
def Node.ordinaryItem : Node → Bool
  | .column c => c.metadata.castFree
  | _ => true

/-- The select list is a list of expressions, and its columns need no cast. -/
def SelectList.ordinary : SelectList → Bool
  | .anyValue | .wildcard => false
  | .expressions items => items.all (·.ordinaryItem)

/-- PostgreSQL has no way of its own to write the node. -/
def Node.ordinary : Node → Bool
  | .groupConcat .. => false
  | .select list .. => list.ordinary
  | .selectList list => list.ordinary
  | _ => true

/-! ## The two generators -/

section Generators

variable (folding : CaseFolding) (context : GenerationContext)

/-- A column that needs no cast is written as anywhere else. -/
theorem projectedColumn_agrees {c : Column} (hcast : c.metadata.castFree) :
    (Generator.postgres folding context).projection.column c =
      (Generator.standard (.postgres folding) context).projection.column c := by
  show Traced.ofExcept (projectColumn (.postgres folding) c) = _
  rw [projectColumn, (castFree_iff c.metadata).mp hcast]
  rfl

/-- A list that an ordinary node selects is ordinary. -/
theorem ordinary_of_selection {n : Node} {list : SelectList} (hok : n.ordinary) (h : n.selection? = some list) :
    list.ordinary := by
  cases n with
  | select l relation filter keys having ordering limit =>
    cases h
    exact hok
  | selectList l =>
    cases h
    exact hok
  | _ => cases h

/-- On ordinary nodes the two generators have the same answers: what sets them apart is asked for string aggregations,
`*`, any value, and columns that need a cast. -/
theorem alike_standard :
    Alike Node.ordinary (Generator.postgres folding context) (Generator.standard (.postgres folding) context) where
  column := rfl
  literal := rfl
  separator := rfl
  sortKey := rfl
  regexp := rfl
  table := rfl
  call _ _ _ := rfl
  concatenation _ _ _ _ hok := by cases hok
  anyValue _ hok h := by cases ordinary_of_selection hok h
  wildcard _ hok h := by cases ordinary_of_selection hok h
  selected _ items c hok h hc := by
    have hitems : items.all (·.ordinaryItem) := ordinary_of_selection hok h
    exact projectedColumn_agrees folding context (List.all_eq_true.mp hitems (.column c) hc)

/-- A tree of ordinary nodes is written by PostgreSQL's generator as by the standard one. -/
theorem generate_agrees (n : Node) (hn : n.every Node.ordinary) :
    (Generator.postgres folding context).generate n =
      (Generator.standard (.postgres folding) context).generate n :=
  (alike_standard folding context).generate rfl n hn

end Generators

end Pushdown
