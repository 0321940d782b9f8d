/-!
# `Text.CodeRange` — sets of characters as evenly spaced ranges of code points

## Contents

* `CodeRange` — every `step`-th code point from `first` to `last`.
* `decidableForallAscii` — decides what is said of every ASCII character.
* `ShiftedRange` — such a range moved as a whole, which is how letters of one case map to the other.
-/

namespace Pushdown.Text

/-- The code points `first`, `first + step`, … up to `last`. -/
structure CodeRange where
  first : Nat
  last : Nat
  step : Nat
deriving DecidableEq, Repr

namespace CodeRange

/-- The code point `n` belongs to the range. -/
def contains (r : CodeRange) (n : Nat) : Bool :=
  r.first ≤ n && n ≤ r.last && (n - r.first) % r.step == 0

end CodeRange

/-- Some range of the list holds the character. -/
def inRanges (rs : List CodeRange) (c : Char) : Bool :=
  rs.any (·.contains c.toNat)

theorem toNat_ofNat_of_isValidChar {n : Nat} (h : n.isValidChar) : (Char.ofNat n).toNat = n := by
  unfold Char.ofNat
  rw [dif_pos h]
  rfl

/-- A fact about all ASCII characters can be tried number by number. -/
theorem forall_ascii_iff {P : Char → Prop} :
    (∀ n < 128, P (Char.ofNat n)) ↔ ∀ c : Char, c.toNat < 128 → P c := by
  constructor
  · intro h c hascii
    have hchar := h c.toNat hascii
    rwa [Char.ofNat_toNat] at hchar
  · intro h n hn
    have hvalid : n.isValidChar := .inl (by omega)
    apply h
    rw [toNat_ofNat_of_isValidChar hvalid]
    exact hn

/-- Statements about the ASCII characters are decided by trying all of them. -/
instance decidableForallAscii (P : Char → Prop) [DecidablePred P] :
    Decidable (∀ c : Char, c.toNat < 128 → P c) :=
  decidable_of_iff _ forall_ascii_iff

/-- A range whose code points map to the range that starts at `target`. -/
structure ShiftedRange where
  domain : CodeRange
  target : Nat
deriving DecidableEq, Repr

namespace ShiftedRange

/-- Image of `n`, for `n` in the domain. -/
def image (r : ShiftedRange) (n : Nat) : Nat :=
  r.target + (n - r.domain.first)

end ShiftedRange

end Pushdown.Text
