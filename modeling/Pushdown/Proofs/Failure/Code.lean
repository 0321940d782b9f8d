import Pushdown.Failure.Code
import Pushdown.Proofs.Number.Numeral

/-!
# `Proofs.Failure.Code` — which texts name a code

A code is written in one way, and read in many: its number may stand behind a plus sign and behind any number of
zeros. Reading has two steps that fail with different words. The first asks for the heading and a number of
16 bits, whatever the number is, the second for a code with that number. So a text is told apart by its form
before its number counts, and a number that is too long for 16 bits is a fault of form.

## Contents

* `Signed` — a text behind at most one plus sign.
* `IsWord16`, `word16?_eq_some_iff`, `exists_word16?_iff` — numbers of 16 bits as texts.
* `Code.number?`, `Code.parse_cases` — the two steps.
* `Code.parse_text` — a code is read back from its text.
* `Code.parse_follows_grammar` — what any text is read as.
-/

namespace Pushdown

/-! ## Numbers of 16 bits -/

/-- The text is another one with at most one plus sign in front. -/
def Signed (cs digits : List Char) : Prop := cs = digits ∨ cs = '+' :: digits

/-- One or more digits that stand for a number of 16 bits, with at most one plus sign in front. -/
def IsWord16 (cs : List Char) : Prop :=
  ∃ digits, Signed cs digits ∧ digits ≠ [] ∧ (∀ c ∈ digits, c.isDigit) ∧ Nat.ofDigitChars 10 digits 0 ≤ 65535

/-- One or more digits stand for their value. -/
theorem decimal?_eq_some_iff_value {cs : List Char} {n : Nat} :
    decimal? cs = some n ↔ cs ≠ [] ∧ (∀ c ∈ cs, c.isDigit) ∧ Nat.ofDigitChars 10 cs 0 = n := by
  unfold decimal?
  rw [← decimalFrom_eq_ofDigitChars]
  by_cases hdigits : (!cs.isEmpty && cs.all isDigit) = true
  · rw [if_pos hdigits, Option.some.injEq]
    simp only [Bool.and_eq_true, Bool.not_eq_true', List.isEmpty_eq_false_iff, List.all_eq_true] at hdigits
    exact ⟨fun h => ⟨hdigits.1, hdigits.2, h⟩, fun h => h.2.2⟩
  · rw [if_neg hdigits]
    refine ⟨nofun, fun h => absurd ?_ hdigits⟩
    simp only [Bool.and_eq_true, Bool.not_eq_true', List.isEmpty_eq_false_iff, List.all_eq_true]
    exact ⟨h.1, h.2.1⟩

/-- The text behind its plus sign, if it has one. -/
def behindPlus (cs : List Char) : List Char :=
  match cs with
  | '+' :: rest => rest
  | _ => cs

theorem word16?_eq (cs : List Char) : word16? cs = (decimal? (behindPlus cs)).filter (· < 65536) := rfl

theorem signed_behindPlus (cs : List Char) : Signed cs (behindPlus cs) := by
  unfold behindPlus
  split
  · exact .inr rfl
  · exact .inl rfl

/-- A plus sign is no digit, so that digits are not cut. -/
theorem behindPlus_eq_of_decimal? {cs digits : List Char} {n : Nat} (hsigned : Signed cs digits)
    (hdigits : decimal? digits = some n) : behindPlus cs = digits := by
  obtain rfl | rfl := hsigned
  · unfold behindPlus
    split
    next rest =>
      have hplus := (decimal?_eq_some_iff_value.mp hdigits).2.1 '+' List.mem_cons_self
      exact absurd hplus (by decide)
    next => rfl
  · rfl

/-- A number of 16 bits, with at most one plus sign in front. -/
theorem word16?_eq_some_iff_signed {cs : List Char} {n : Nat} :
    word16? cs = some n ↔ n ≤ 65535 ∧ ∃ digits, Signed cs digits ∧ decimal? digits = some n := by
  rw [word16?_eq, Option.filter_eq_some_iff, decide_eq_true_eq]
  constructor
  · rintro ⟨hdigits, hn⟩
    exact ⟨Nat.le_of_lt_succ hn, _, signed_behindPlus cs, hdigits⟩
  · rintro ⟨hn, digits, hsigned, hdigits⟩
    rw [behindPlus_eq_of_decimal? hsigned hdigits]
    exact ⟨hdigits, Nat.lt_succ_of_le hn⟩

/-- The texts of a number of 16 bits: its digits behind zeros, with at most one plus sign in front of all. -/
theorem word16?_eq_some_iff {cs : List Char} {n : Nat} :
    word16? cs = some n ↔ n ≤ 65535 ∧ ∃ k, Signed cs (zeros k ++ Nat.toDigits 10 n) := by
  rw [word16?_eq_some_iff_signed]
  refine and_congr_right fun _ => ⟨?_, ?_⟩
  · rintro ⟨digits, hsigned, hdigits⟩
    obtain ⟨k, rfl⟩ := decimal?_eq_some_iff.mp hdigits
    exact ⟨k, hsigned⟩
  · rintro ⟨k, hsigned⟩
    exact ⟨_, hsigned, decimal?_eq_some_iff.mpr ⟨k, rfl⟩⟩

theorem exists_word16?_iff {cs : List Char} : (∃ n, word16? cs = some n) ↔ IsWord16 cs := by
  simp only [word16?_eq_some_iff_signed, decimal?_eq_some_iff_value]
  constructor
  · rintro ⟨n, hn, digits, hsigned, hne, hdigit, rfl⟩
    exact ⟨digits, hsigned, hne, hdigit, hn⟩
  · rintro ⟨digits, hsigned, hne, hdigit, hn⟩
    exact ⟨_, hn, digits, hsigned, hne, hdigit, rfl⟩

/-! ## Codes -/

namespace Code

/-- The number that a text gives behind the heading. -/
def number? (s : String) : Option Nat := (Text.behind? heading s.toList).bind word16?

theorem number?_eq_some_iff {s : String} {n : Nat} :
    number? s = some n ↔ ∃ rest, s.toList = heading ++ rest ∧ word16? rest = some n := by
  rw [number?, Option.bind_eq_some_iff]
  refine exists_congr fun rest => and_congr_left fun _ => ⟨Text.eq_append_of_behind?, ?_⟩
  intro h
  rw [h]
  exact Text.behind?_append heading rest

theorem number_injective : Function.Injective number := by
  intro c c' h
  cases c <;> cases c' <;> first | rfl | exact absurd h (by decide)

/-- The codes in use are found by their numbers. -/
theorem ofNumber?_eq_some_iff {n : Nat} {c : Code} : ofNumber? n = some c ↔ c.number = n := by
  have hall : c ∈ all := by cases c <;> decide
  constructor
  · intro h
    have hfound := List.find?_some h
    exact eq_of_beq hfound
  · rintro rfl
    cases hfound : ofNumber? c.number with
    | none => exact absurd (beq_self_eq_true c.number) (List.find?_eq_none.mp hfound c hall)
    | some c' =>
      have hsame := List.find?_some hfound
      rw [number_injective (eq_of_beq hsame)]

theorem ofNumber?_eq_none_iff {n : Nat} : ofNumber? n = none ↔ ∀ c : Code, c.number ≠ n := by
  rw [Option.eq_none_iff_forall_ne_some]
  exact forall_congr' fun c => not_congr ofNumber?_eq_some_iff

/-- The form first, then the number. -/
theorem parse_eq (s : String) :
    parse s = match number? s with
      | none => .error .invalidFormat
      | some n => match ofNumber? n with
        | some c => .ok c
        | none => .error .unknownCode := rfl

/-- What becomes of a text, case by case. -/
theorem parse_cases (s : String) :
    (number? s = none ∧ parse s = .error .invalidFormat) ∨
    (∃ c : Code, number? s = some c.number ∧ parse s = .ok c) ∨
    (∃ n, number? s = some n ∧ (∀ c : Code, c.number ≠ n) ∧ parse s = .error .unknownCode) := by
  rw [parse_eq]
  cases hnumber : number? s with
  | none => exact .inl ⟨rfl, rfl⟩
  | some n =>
    dsimp only
    cases hcode : ofNumber? n with
    | none => exact .inr (.inr ⟨n, rfl, ofNumber?_eq_none_iff.mp hcode, rfl⟩)
    | some c => exact .inr (.inl ⟨c, by rw [ofNumber?_eq_some_iff.mp hcode], rfl⟩)

theorem parse_eq_ok_iff {s : String} {c : Code} : parse s = .ok c ↔ number? s = some c.number := by
  obtain ⟨hnumber, hparse⟩ | ⟨c', hnumber, hparse⟩ | ⟨n, hnumber, hunused, hparse⟩ := parse_cases s
  · rw [hnumber, hparse]
    exact ⟨nofun, nofun⟩
  · rw [hnumber, hparse, Except.ok.injEq, Option.some.injEq, number_injective.eq_iff]
  · rw [hnumber, hparse, Option.some.injEq]
    exact ⟨nofun, fun h => absurd h.symm (hunused c)⟩

/-- A text has a number exactly if it is the heading with a number of 16 bits behind it. -/
theorem number?_isSome_iff {s : String} :
    (number? s).isSome ↔ ∃ rest, s.toList = heading ++ rest ∧ IsWord16 rest := by
  simp only [Option.isSome_iff_exists, number?_eq_some_iff, ← exists_word16?_iff]
  constructor
  · rintro ⟨n, rest, hrest, hword⟩
    exact ⟨rest, hrest, n, hword⟩
  · rintro ⟨rest, hrest, n, hword⟩
    exact ⟨n, rest, hrest, hword⟩

/-- A text names a code if it gives the number of the code, which has 16 bits. -/
theorem parse_eq_ok_iff_spelled {s : String} {c : Code} :
    parse s = .ok c ↔ ∃ rest k, s.toList = heading ++ rest ∧ Signed rest (zeros k ++ Nat.toDigits 10 c.number) := by
  have hsize : c.number ≤ 65535 := by cases c <;> decide
  rw [parse_eq_ok_iff, number?_eq_some_iff]
  refine exists_congr fun rest => ?_
  rw [word16?_eq_some_iff, and_iff_right hsize, exists_and_left]

/-- A code is read back from its text. -/
theorem parse_text (c : Code) : parse c.text = .ok c := by
  refine parse_eq_ok_iff_spelled.mpr ⟨_, 0, ?_, .inl rfl⟩
  rw [text, String.toList_ofList]
  rfl

/-- The message for a wrong format stands for texts without a number, and only for them. -/
theorem message_eq_invalidFormat_iff {s : String} :
    (parse s).mapError CodeError.message = .error "Invalid format" ↔ number? s = none := by
  obtain ⟨hnumber, hparse⟩ | ⟨c, hnumber, hparse⟩ | ⟨n, hnumber, -, hparse⟩ := parse_cases s
  · rw [hnumber, hparse]
    exact iff_of_true rfl rfl
  · rw [hnumber, hparse]
    exact ⟨nofun, nofun⟩
  · rw [hnumber, hparse]
    refine iff_of_false (fun h => ?_) nofun
    exact absurd (Except.error.inj h) (by decide)

/-- The message for an unknown code stands for texts with a number that is none of a code. -/
theorem message_eq_unknownCode_iff {s : String} :
    (parse s).mapError CodeError.message = .error "Unknown code" ↔ (number? s).isSome ∧ ∀ c, parse s ≠ .ok c := by
  obtain ⟨hnumber, hparse⟩ | ⟨c, hnumber, hparse⟩ | ⟨n, hnumber, -, hparse⟩ := parse_cases s
  · rw [hnumber, hparse]
    refine iff_of_false (fun h => ?_) (fun h => Bool.false_ne_true h.1)
    exact absurd (Except.error.inj h) (by decide)
  · rw [hnumber, hparse]
    exact iff_of_false nofun fun h => h.2 c rfl
  · rw [hnumber, hparse]
    exact iff_of_true rfl ⟨rfl, fun _ => nofun⟩

/-- **Codes are read by an exact grammar.** A text is read as a code if and only if it is the heading, at most one plus
sign, any number of zeros and the digits of the code's number. It is refused as of the wrong form if and only if it
lacks the heading, or what follows is not a string of one or more digits with a value of 16 bits and at most one plus
sign in front. In all other cases the code is unknown. Every code is read back from its text. -/
theorem parse_follows_grammar :
    (∀ (s : String) (c : Code), parse s = .ok c ↔
      ∃ rest k, s.toList = "PGVS-".toList ++ rest ∧
        Signed rest (List.replicate k '0' ++ Nat.toDigits 10 c.number)) ∧
    (∀ s : String, (parse s).mapError CodeError.message = .error "Invalid format" ↔
      ∀ rest, s.toList = "PGVS-".toList ++ rest → ¬ IsWord16 rest) ∧
    (∀ s : String, (parse s).mapError CodeError.message = .error "Unknown code" ↔
      (∃ rest, s.toList = "PGVS-".toList ++ rest ∧ IsWord16 rest) ∧ ∀ c, parse s ≠ .ok c) ∧
    ∀ c : Code, parse c.text = .ok c := by
  refine ⟨fun s c => parse_eq_ok_iff_spelled, fun s => ?_, fun s => ?_, parse_text⟩
  · rw [message_eq_invalidFormat_iff, ← Option.not_isSome_iff_eq_none, number?_isSome_iff]
    exact ⟨fun h rest hrest hword => h ⟨rest, hrest, hword⟩, fun h ⟨rest, hrest, hword⟩ => h rest hrest hword⟩
  · rw [message_eq_unknownCode_iff, number?_isSome_iff]
    rfl

example : parse "PGVS-+0003001" = .ok .invalidIdentifierMapping ∧ parse "PGVS-65535" = .error .unknownCode ∧
    parse "PGVS-65536" = .error .invalidFormat ∧ parse "PGVS-+" = .error .invalidFormat :=
  ⟨rfl, rfl, rfl, rfl⟩

end Code

end Pushdown
