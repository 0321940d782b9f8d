/-!
# `Text.Cut` — what stands before or behind a fixed text

## Contents

* `behind?` — the rest of a text that begins with another.
* `startsWith` — whether it does.
-/

namespace Pushdown.Text

/-- What follows `start` in a text that begins with it. -/
def behind? : List Char → List Char → Option (List Char)
  | [], cs => some cs
  | _ :: _, [] => none
  | s :: start, c :: cs => if s = c then behind? start cs else none

/-- The text begins with `start`. -/
def startsWith (start s : String) : Bool := (behind? start.toList s.toList).isSome

theorem behind?_append (start cs : List Char) : behind? start (start ++ cs) = some cs := by
  induction start with
  | nil => rfl
  | cons s start ih => simp [behind?, ih]

/-- What stands behind a beginning is what is left when it is taken off. -/
theorem eq_append_of_behind? {start cs rest : List Char} (h : behind? start cs = some rest) :
    cs = start ++ rest := by
  induction start generalizing cs with
  | nil => simpa [behind?] using h
  | cons s start ih =>
    cases cs with
    | nil => simp [behind?] at h
    | cons c cs =>
      rw [behind?] at h
      split at h
      · next hsc => simp [hsc, ih h]
      · simp at h

end Pushdown.Text
