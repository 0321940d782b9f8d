import Pushdown.Text.Ascii

/-!
# `Suggestion` — the option someone may have meant

## Contents

* `editDistance` — how many single-character changes turn one text into another.
* `suggest` — the first nearest option, compared in upper case, if it is near enough.
-/

namespace Pushdown

/-- One more row of the distance table. Behind the cells `diagonal` (above left) and `left`, the row lists the
distances from the text that ends in `c` to the longer and longer beginnings of the other text, given the row
above. -/
def extendRow (c : Char) : Nat → Nat → List Char → List Nat → List Nat
  | diagonal, left, d :: ds, up :: ups =>
    let cell := min (min (up + 1) (left + 1)) (diagonal + if c = d then 0 else 1)
    cell :: extendRow c up cell ds ups
  | _, _, _, _ => []

/-- The row below `row`, for one more character of the first text. -/
def nextRow (b : List Char) (row : List Nat) (c : Char) : List Nat :=
  match row with
  | [] => []
  | first :: rest => (first + 1) :: extendRow c first (first + 1) b rest

/-- Number of insertions, deletions and replacements that turn one text into the other. -/
def editDistance (a b : List Char) : Nat :=
  (a.foldl (nextRow b) (List.range (b.length + 1))).getLast?.getD 0

/-- The farthest option that is still suggested. -/
def suggestionLimit : Nat := 3

/-- The nearest option so far, and its distance. -/
def nearer (target : List Char) (best : Option (Nat × String)) (option : String) : Option (Nat × String) :=
  let distance := editDistance target (Text.asciiUpper option).toList
  if suggestionLimit < distance then best
  else match best with
    | some (least, _) => if distance < least then some (distance, option) else best
    | none => some (distance, option)

/-- The first of the options nearest to `target`, unless all are too far. -/
def suggest (target : String) (options : List String) : Option String :=
  (options.foldl (nearer (Text.asciiUpper target).toList) none).map Prod.snd

end Pushdown
