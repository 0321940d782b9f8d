import Pushdown.Capability.Set

/-!
# `Capability.Builder` — sets of capabilities, built call by call

Names are given to one family at a time, in any order and as often as one likes. Each call adds to what its family
has already.

## Contents

* `Capability` — a capability of any family.
* `Addition` — the names that one call gives to a family.
* `Capabilities.add`, `Capabilities.build` — one call, and a row of them.
* `Capabilities.supports` — whether a capability was given.
-/

namespace Pushdown

/-- A capability of any family. -/
inductive Capability
  | main (c : MainCapability)
  | predicate (c : PredicateCapability)
  | literal (c : LiteralCapability)
  | aggregate (c : AggregateCapability)
  | scalar (f : ScalarFunction)
deriving DecidableEq, Repr

/-- The names that one call gives to a family. -/
inductive Addition
  | main (names : List MainCapability)
  | predicates (names : List PredicateCapability)
  | literals (names : List LiteralCapability)
  | aggregates (names : List AggregateCapability)
  | scalars (names : List ScalarFunction)
deriving Repr

namespace Addition

/-- The capabilities that a call gives. -/
def names : Addition → List Capability
  | .main names => names.map .main
  | .predicates names => names.map .predicate
  | .literals names => names.map .literal
  | .aggregates names => names.map .aggregate
  | .scalars names => names.map .scalar

end Addition

namespace Capabilities

/-- The capabilities after one more call. -/
def add (c : Capabilities) : Addition → Capabilities
  | .main names => { c with main := c.main.insertMany names }
  | .predicates names => { c with predicates := c.predicates.insertMany names }
  | .literals names => { c with literals := c.literals.insertMany names }
  | .aggregates names => { c with aggregates := c.aggregates.insertMany names }
  | .scalars names => { c with scalars := c.scalars.insertMany names }

/-- The capabilities that a row of calls gives. -/
def build (calls : List Addition) : Capabilities := calls.foldl add {}

/-- The capability was given to its family. -/
def supports (c : Capabilities) : Capability → Bool
  | .main m => c.main.contains m
  | .predicate p => c.predicates.contains p
  | .literal l => c.literals.contains l
  | .aggregate a => c.aggregates.contains a
  | .scalar f => c.scalars.contains f

end Capabilities

end Pushdown
