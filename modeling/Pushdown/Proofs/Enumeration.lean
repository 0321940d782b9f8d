import Mathlib.Data.List.Nodup
import Pushdown.Capability.Basic
import Pushdown.Function.Scalar

/-!
# `Proofs.Enumeration` — enumerations list every member once

Functions and capabilities are looked up by name and written in declared order. Both rest on two facts about an
enumeration, that its list leaves no member out and that no two members share a name. They are checked for each type
once; what follows from them is proved for all.

## Contents

* `LawfulEnumeration` — the two facts.
* `Enumeration.nodup_all`, `Enumeration.lookup_variants` — members and their names.
* `Enumeration.pairwise_position_filter` — a part of an enumeration stands in declared order.
-/

namespace Pushdown

/-- The list of an enumeration has every member, and no two members share a name. -/
class LawfulEnumeration (α : Type) [Enumeration α] : Prop where
  mem_all : ∀ a : α, a ∈ Enumeration.all (α := α)
  nodup_names : ((Enumeration.all (α := α)).map Enumeration.name).Nodup

namespace Enumeration

variable {α : Type} [Enumeration α]

/-- With distinct names, each member is found under its own. -/
theorem lookup_of_mem {members : List α} {a : α} (hmem : a ∈ members) (hnames : (members.map name).Nodup) :
    (members.map fun a => (name a, a)).lookup (name a) = some a := by
  induction members with
  | nil => cases hmem
  | cons b members ih =>
    rw [List.map_cons, List.nodup_cons] at hnames
    rw [List.map_cons, List.lookup_cons]
    rcases List.mem_cons.mp hmem with rfl | hrest
    · rw [beq_self_eq_true]
    · -- the first one has another name
      have hother : (name a == name b) = false := by
        rw [beq_eq_false_iff_ne]
        intro h
        exact hnames.1 (h ▸ List.mem_map_of_mem hrest)
      rw [hother]
      exact ih hrest hnames.2

variable [LawfulEnumeration α]

theorem mem_all (a : α) : a ∈ Enumeration.all (α := α) := LawfulEnumeration.mem_all a

theorem nodup_all : (Enumeration.all (α := α)).Nodup := .of_map name LawfulEnumeration.nodup_names

/-- A member is found by its name. -/
theorem lookup_variants (a : α) : (variants α).lookup (name a) = some a :=
  lookup_of_mem (mem_all a) LawfulEnumeration.nodup_names

variable [BEq α] [LawfulBEq α]

/-- What is left of an enumeration stands in declared order, each member once. -/
theorem pairwise_position_filter (p : α → Bool) :
    ((Enumeration.all (α := α)).filter p).Pairwise fun a b => position a < position b := by
  refine List.Pairwise.sublist List.filter_sublist ?_
  rw [List.pairwise_iff_getElem]
  intro i j hi hj hij
  show List.idxOf _ _ < List.idxOf _ _
  rw [nodup_all.idxOf_getElem i hi, nodup_all.idxOf_getElem j hj]
  exact hij

end Enumeration

/-! ## The enumerations -/

/-- Names are told apart by their length before they are compared. -/
theorem nodup_of_sizes {ss : List String} {n : Nat} (hsize : ∀ s ∈ ss, s.utf8ByteSize < n)
    (h : ∀ k < n, (ss.filter (·.utf8ByteSize == k)).Nodup) : ss.Nodup := by
  rw [List.nodup_iff_count_le_one]
  intro s
  by_cases hs : s ∈ ss
  · have hcount := List.nodup_iff_count_le_one.mp (h s.utf8ByteSize (hsize s hs)) s
    rwa [List.count_filter (p := fun t : String => t.utf8ByteSize == s.utf8ByteSize) (beq_self_eq_true _)] at hcount
  · rw [List.count_eq_zero_of_not_mem hs]
    exact Nat.zero_le 1

instance : LawfulEnumeration MainCapability where
  mem_all a := by cases a <;> decide
  nodup_names := by decide +kernel

instance : LawfulEnumeration PredicateCapability where
  mem_all a := by cases a <;> decide
  nodup_names := by decide +kernel

instance : LawfulEnumeration LiteralCapability where
  mem_all a := by cases a <;> decide
  nodup_names := by decide +kernel

instance : LawfulEnumeration AggregateCapability where
  mem_all a := by cases a <;> decide
  nodup_names := by decide +kernel

instance : LawfulEnumeration ScalarFunction where
  mem_all a := by
    have hplace : ScalarFunction.all[a.ctorIdx]? = some a := by cases a <;> rfl
    exact List.mem_of_getElem? hplace
  nodup_names := by
    have hnames : (∀ s ∈ ScalarFunction.all.map ScalarFunction.name, s.utf8ByteSize < 20) ∧
        ∀ k < 20, ((ScalarFunction.all.map ScalarFunction.name).filter (·.utf8ByteSize == k)).Nodup := by
      decide +kernel
    exact nodup_of_sizes hnames.1 hnames.2

end Pushdown
