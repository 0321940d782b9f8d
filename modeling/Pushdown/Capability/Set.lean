import Pushdown.Capability.Basic
import Pushdown.Function.Scalar
import Pushdown.Json.Decode

/-!
# `Capability.Set` — sets of capabilities

A set is known by its members alone: neither the order nor the number of times they were given matters. It is
written in the declared order of its type.

## Contents

* `NameSet` — a set of members of an enumeration.
* `Capabilities` — one set for each family.
* `Capabilities.toJson`, `Capabilities.reader` — the form that is exchanged.
-/

namespace Pushdown

/-- A set of members of an enumeration. -/
structure NameSet (α : Type) where
  contains : α → Bool

namespace NameSet

variable {α : Type}

/-- The empty set. -/
def empty : NameSet α := ⟨fun _ => false⟩

/-- The set with more members. -/
def insertMany [BEq α] (s : NameSet α) (members : List α) : NameSet α :=
  ⟨fun a => s.contains a || members.contains a⟩

/-- The set of the members of a list. -/
def ofList [BEq α] (members : List α) : NameSet α := empty.insertMany members

/-- The members in declared order. -/
def toList [Enumeration α] (s : NameSet α) : List α := Enumeration.all.filter s.contains

/-- Number of members. -/
def size [Enumeration α] (s : NameSet α) : Nat := s.toList.length

/-- An array of names. -/
def toJson [Enumeration α] (s : NameSet α) : Json := .ofTexts (s.toList.map Enumeration.name)

/-- Reads an array of names. -/
def reader [BEq α] [Enumeration α] : Json.Reader (NameSet α) := do
  let members ← Json.Reader.list (Json.Reader.variant (Enumeration.variants α))
  pure (ofList members)

end NameSet

/-- Everything that a dialect can be asked to do. -/
structure Capabilities where
  main : NameSet MainCapability := .empty
  predicates : NameSet PredicateCapability := .empty
  literals : NameSet LiteralCapability := .empty
  aggregates : NameSet AggregateCapability := .empty
  scalars : NameSet ScalarFunction := .empty

namespace Capabilities

/-- Numbers of members, family by family. -/
def counts (c : Capabilities) : List Nat :=
  [c.main.size, c.predicates.size, c.literals.size, c.aggregates.size, c.scalars.size]

/-- The form that is exchanged. -/
def toJson (c : Capabilities) : Json :=
  .object [("main", c.main.toJson), ("predicates", c.predicates.toJson), ("literals", c.literals.toJson),
    ("aggregate_functions", c.aggregates.toJson), ("scalar_functions", c.scalars.toJson)]

/-- The fields of a set of capabilities. -/
def fields : List (Json.Field Capabilities) :=
  [{ name := "main", store := fun c => do return { c with main := ← NameSet.reader } },
   { name := "predicates", store := fun c => do return { c with predicates := ← NameSet.reader } },
   { name := "literals", store := fun c => do return { c with literals := ← NameSet.reader } },
   { name := "aggregate_functions", store := fun c => do return { c with aggregates := ← NameSet.reader } },
   { name := "scalar_functions", store := fun c => do return { c with scalars := ← NameSet.reader } }]

/-- Reads capabilities. -/
def reader : Json.Reader Capabilities := Json.Reader.record "Capabilities" fields {}

end Capabilities

end Pushdown
