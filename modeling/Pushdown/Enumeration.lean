import Pushdown.Text.Ascii

/-!
# `Enumeration` — finite types whose members have names

Functions and capabilities are exchanged by name. A name is recognised in any mixture of ASCII case; the order
in which the members are declared is the order in which sets of them are written.

## Contents

* `Enumeration` — the members of a type in declared order, with their names.
* `Enumeration.ofName?` — the member with a name.
-/

namespace Pushdown

/-- A finite type whose members have names. -/
class Enumeration (α : Type) where
  /-- What messages call the type. -/
  typeName : String
  /-- The members in declared order. -/
  all : List α
  /-- The name of a member. -/
  name : α → String

namespace Enumeration

variable {α : Type} [Enumeration α]

/-- The first member with this name, in any case. -/
def ofName? (s : String) : Option α :=
  (all (α := α)).find? fun a => Text.sameIgnoringCase (name a) s

/-- The message for a name that no member has. -/
def unknown (α : Type) [Enumeration α] (s : String) : String :=
  "Unknown " ++ typeName α ++ ": " ++ s

/-- The members with their names, in declared order. -/
def variants (α : Type) [Enumeration α] : List (String × α) :=
  (all (α := α)).map fun a => (name a, a)

/-- Place of a member in the declared order. -/
def position [BEq α] (a : α) : Nat := (all (α := α)).findIdx (· == a)

end Enumeration

end Pushdown
