import Pushdown.Text.CodeRange

/-!
# `Text.Blank` — white space, trimming and splitting

## Contents

* `isBlank` — the property White_Space.
* `trim` — removes blanks at both ends.
* `split` — the pieces between the occurrences of a separator.
-/

namespace Pushdown.Text

/-- Characters with the property White_Space. -/
def blankRanges : List CodeRange :=
  [⟨0x9, 0xd, 1⟩, ⟨0x20, 0x20, 1⟩, ⟨0x85, 0x85, 1⟩, ⟨0xa0, 0xa0, 1⟩, ⟨0x1680, 0x1680, 1⟩,
   ⟨0x2000, 0x200a, 1⟩, ⟨0x2028, 0x2029, 1⟩, ⟨0x202f, 0x202f, 1⟩, ⟨0x205f, 0x205f, 1⟩,
   ⟨0x3000, 0x3000, 1⟩]

/-- A character with the property White_Space. -/
def isBlank (c : Char) : Bool := inRanges blankRanges c

/-- The characters that remain when blanks at both ends are removed. -/
def trimChars (cs : List Char) : List Char :=
  ((cs.dropWhile isBlank).reverse.dropWhile isBlank).reverse

/-- The text without blanks at either end. -/
def trim (s : String) : String := String.ofList (trimChars s.toList)

/-- The pieces between separators: one more than there are separators. -/
def splitChars (sep : Char) : List Char → List (List Char)
  | [] => [[]]
  | c :: r =>
    if c = sep then [] :: splitChars sep r
    else match splitChars sep r with
      | [] => [[c]]
      | piece :: pieces => (c :: piece) :: pieces

/-- The pieces of a text between separators. -/
def split (sep : Char) (s : String) : List String :=
  (splitChars sep s.toList).map String.ofList

theorem splitChars_ne_nil (sep : Char) (cs : List Char) : splitChars sep cs ≠ [] := by
  cases cs with
  | nil => simp [splitChars]
  | cons c r =>
    rw [splitChars]
    split
    · simp
    · split <;> simp

end Pushdown.Text
