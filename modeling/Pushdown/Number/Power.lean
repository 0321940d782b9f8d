/-!
# `Number.Power` — powers of two and of ten

## Contents

* `twoPow`, `tenPow` — the powers.
-/

namespace Pushdown

/-- Two to the `n`-th. -/
def twoPow (n : Nat) : Nat := Nat.pow 2 n

/-- Ten to the `n`-th. -/
def tenPow (n : Nat) : Nat := Nat.pow 10 n

end Pushdown
