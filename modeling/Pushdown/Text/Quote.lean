/-!
# `Text.Quote` — text between quotes

A quote inside a quoted text is written twice. A printer that cannot know whether a text was already written
that way looks at each quote: one that follows a backslash is taken as escaped and printed once, any other is
printed twice, and a second quote right behind it is taken as its escape and dropped.

## Contents

* `double` — every quote written twice.
* `protect` — the printer's scan, with what it remembers of the characters before.
* `quoted` — a whole quoted text as it is printed.
-/

namespace Pushdown.Text

/-- Every occurrence of `q` written twice. -/
def double (q : Char) : List Char → List Char
  | [] => []
  | c :: r => if c = q then q :: q :: double q r else c :: double q r

/-- Every occurrence of `q` in a text written twice. -/
def doubled (q : Char) (s : String) : String := String.ofList (double q s.toList)

/-- What the printer of a quoted text remembers of the characters before. -/
inductive QuoteMemory
  /-- Nothing that matters to the next quote. -/
  | plain
  /-- The last character other than a quote was a backslash. -/
  | backslash
  /-- A quote was just written twice. -/
  | pending
deriving DecidableEq, Repr

/-- Body of a text between quotes `q`, as it is printed. -/
def protect (q : Char) : QuoteMemory → List Char → List Char
  | _, [] => []
  | m, c :: r =>
    if c = q then
      match m with
      | .plain => q :: q :: protect q .pending r
      | .pending => protect q .plain r
      | .backslash => q :: protect q .backslash r
    else c :: protect q (if c = '\\' then .backslash else .plain) r

/-- A text between quotes `q`, as it is printed. -/
def quoted (q : Char) (s : String) : List Char :=
  q :: protect q .plain s.toList ++ [q]

/-- A text that is already written twice comes out of the printer unchanged. -/
theorem protect_double (q : Char) (cs : List Char) :
    protect q .plain (double q cs) = double q cs ∧
      protect q .backslash (double q cs) = double q cs := by
  induction cs with
  | nil => exact ⟨rfl, rfl⟩
  | cons c r ih =>
    by_cases hc : c = q
    · simp [double, protect, hc, ih.1, ih.2]
    · by_cases hb : c = '\\'
      · subst hb
        simp [double, protect, hc, ih.2]
      · simp [double, protect, hc, hb, ih.1]

end Pushdown.Text
