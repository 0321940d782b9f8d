import Pushdown.Proofs.Generation.Agreement
import Pushdown.Proofs.Generation.Readability
import Pushdown.Proofs.Sql.Grouping

/-!
# `Proofs.Generation.Intervals` — where a shifted date stays one operand

Arithmetic is written between parentheses, but a date with an amount of time added to it is written as a bare sum,
`date + make_interval(days => n)`. The sum stays together where nothing as tight as `+` takes a part of it: alone, as
an argument, as the date or the amount of another shift, as the left operand of `+` and `-`. As their right operand, or
as an operand of `*` and `/`, it is torn apart, and the text reads as another tree. These places are exactly the ones
where it goes wrong.

## Contents

* `Node.IsCalculation` — columns and numbers under arithmetic and shifts of dates, nested in any way.
* `Node.keepsShifts` — no operand of an operator is a shift that the operator would tear apart.
* `wellGrouped_iff_keepsShifts` — precedence groups a calculation as its tree does exactly then.
* `Adapter.calculation_reads_as_its_tree_iff` — the same for the text that a caller gets.
-/

namespace Pushdown

open Sql (Token Slot Phrase Operator signLevel lead)

/-! ## Calculations -/

/-- The function shifts a date by an amount of time. -/
def ScalarFunction.isShift : ScalarFunction → Bool
  | .addDays | .addHours | .addMinutes | .addSeconds | .addWeeks | .addMonths | .addYears => true
  | _ => false

/-- The node is a date that is shifted by an amount of time. -/
def Node.isShift : Node → Bool
  | .scalar function _ => function.isShift
  | _ => false

/-- The constant is a number. -/
def Literal.isNumber : Literal → Bool
  | .exact text => isSignedNumeral text.toList
  | .double _ => true
  | _ => false

/-- Columns and numbers, and what arithmetic, negation and shifts of dates make of them. -/
inductive Node.IsCalculation : Node → Prop
  | column (c : Column) : IsCalculation (.column c)
  | number {l : Literal} (h : l.isNumber) : IsCalculation (.literal l)
  | arithmetic {f : ScalarFunction} {left right : Node} (hf : f.isArithmetic)
      (hleft : IsCalculation left) (hright : IsCalculation right) : IsCalculation (.scalar f [left, right])
  | negation {operand : Node} (h : IsCalculation operand) : IsCalculation (.scalar .neg [operand])
  | shift {f : ScalarFunction} {date amount : Node} (hf : f.isShift) (hdate : IsCalculation date)
      (hamount : IsCalculation amount) : IsCalculation (.scalar f [date, amount])

/-- The node has no shift as an operand that its operator would tear apart. -/
def Node.keepsShifts : Node → Bool
  | .scalar .add [_, right] | .scalar .sub [_, right] => !right.isShift
  | .scalar .mult [left, right] | .scalar .floatDiv [left, right] => !left.isShift && !right.isShift
  | _ => true

section Forms

variable {f : ScalarFunction}

theorem exists_operator_of_isArithmetic (h : f.isArithmetic) : ∃ o, f.form = .between o := by
  cases f with
  | add | sub | mult | floatDiv => exact ⟨_, rfl⟩
  | _ => cases h

theorem exists_unit_of_isShift (h : f.isShift) : ∃ unit, f.form = .interval unit ∧ lead unit = .plain := by
  cases f with
  | addDays | addHours | addMinutes | addSeconds | addWeeks | addMonths | addYears =>
    exact ⟨_, rfl, Sql.lead_ofList (by decide)⟩
  | _ => cases h

theorem not_isShift_of_isArithmetic (h : f.isArithmetic) : ¬ f.isShift := by
  cases f with
  | add | sub | mult | floatDiv => decide
  | _ => cases h

theorem takes_two_of_isArithmetic (h : f.isArithmetic) : f.takes 2 := by
  obtain ⟨o, ho⟩ := exists_operator_of_isArithmetic h
  rw [takes_iff, ho]
  rintro expected ⟨⟩
  rfl

theorem takes_two_of_isShift (h : f.isShift) : f.takes 2 := by
  obtain ⟨unit, hunit, -⟩ := exists_unit_of_isShift h
  rw [takes_iff, hunit]
  rintro expected ⟨⟩
  rfl

/-- A shift itself puts nothing behind an operator but the call that makes the amount. -/
theorem keepsShifts_of_isShift (h : f.isShift) (ns : List Node) : (Node.scalar f ns).keepsShifts := by
  cases f with
  | addDays | addHours | addMinutes | addSeconds | addWeeks | addMonths | addYears => rfl
  | _ => cases h

theorem level_of_between {o : Operator} (h : f.form = .between o) :
    Operator.plus.level ≤ o.level ∧ o.level < signLevel := by
  cases f with
  | add | sub | mult | floatDiv =>
    cases h
    decide
  | _ => cases h

/-- What arithmetic asks of its operands, by the level of its operator. -/
theorem keepsShifts_iff {o : Operator} (h : f.form = .between o) (left right : Node) :
    (Node.scalar f [left, right]).keepsShifts ↔
      (left.isShift → o.level ≤ Operator.plus.level) ∧ ¬ right.isShift := by
  cases f with
  | add | sub | mult | floatDiv =>
    cases h
    simp [Node.keepsShifts, Operator.level]
  | _ => cases h

end Forms

section Calculations

variable {n : Node}

/-- A calculation can be written: its columns and numbers can, and every operator has as many operands as it takes. -/
theorem expressible_of_isCalculation (h : n.IsCalculation) : n.expressible := by
  induction h with
  | column c => rfl
  | number h => rfl
  | arithmetic hf _ _ ihleft ihright =>
    simp [Node.expressible, allExpressible, takes_two_of_isArithmetic hf, ihleft, ihright]
  | negation _ ih =>
    have htakes : ScalarFunction.neg.takes 1 := rfl
    simp [Node.expressible, allExpressible, htakes, ih]
  | shift hf _ _ ihdate ihamount =>
    simp [Node.expressible, allExpressible, takes_two_of_isShift hf, ihdate, ihamount]

/-- A calculation holds no other texts than numbers. -/
theorem plain_of_isCalculation (h : n.IsCalculation) : n.plain := by
  induction h with
  | column c => rfl
  | @number l h =>
    cases l with
    | exact text => exact h
    | double value => rfl
    | _ => cases h
  | arithmetic _ _ _ ihleft ihright => simp [Node.plain, allPlain, ihleft, ihright]
  | negation _ ih => simpa [Node.plain, allPlain] using ih
  | shift _ _ _ ihdate ihamount => simp [Node.plain, allPlain, ihdate, ihamount]

end Calculations

/-! ## The phrase of a calculation -/

section Phrases

variable (folding : CaseFolding) {f : ScalarFunction} {n left right date amount operand : Node}

theorem read_arithmetic {o : Operator} (h : f.form = .between o) :
    ((Node.scalar f [left, right]).phrase folding).read =
      .group (.binary o (left.phrase folding).read (right.phrase folding).read) := by
  simp only [Node.phrase, phrases, h]
  rfl

theorem read_negation :
    ((Node.scalar .neg [operand]).phrase folding).read = .sign true (.group (operand.phrase folding).read) := by
  simp only [Node.phrase, phrases]
  rfl

theorem read_shift {unit : String} (h : f.form = .interval unit) :
    ((Node.scalar f [date, amount]).phrase folding).read =
      .binary .plus (date.phrase folding).read
        (.callNamed "make_interval" unit (amount.phrase folding).read) := by
  simp only [Node.phrase, phrases, h]
  rfl

/-- What is no shift is closed enough to be an operand of every operator. -/
theorem ends_of_not_isShift (h : n.IsCalculation) (hn : ¬ n.isShift) :
    signLevel ≤ (n.phrase folding).read.floor ∧ Operator.times.level ≤ (n.phrase folding).read.limit := by
  cases h with
  | column c => exact ⟨(isOperand_column folding c).floor, (isOperand_column folding c).limit⟩
  | @number l _ => exact ⟨(isOperand_literal l).floor, (isOperand_literal l).limit⟩
  | arithmetic hf _ _ =>
    obtain ⟨o, ho⟩ := exists_operator_of_isArithmetic hf
    rw [read_arithmetic folding ho]
    show signLevel ≤ signLevel ∧ Operator.times.level ≤ signLevel
    decide
  | negation _ =>
    rw [read_negation]
    show signLevel ≤ signLevel ∧ Operator.times.level ≤ min (signLevel - 1) signLevel
    decide
  | shift hf _ _ => exact absurd hf hn

/-- Nothing in a calculation is open to the left that is looser than `+`. -/
theorem le_floor_of_isCalculation (h : n.IsCalculation) :
    Operator.plus.level ≤ (n.phrase folding).read.floor := by
  induction h with
  | @shift f date amount hf _ _ ihdate _ =>
    obtain ⟨unit, hunit, -⟩ := exists_unit_of_isShift hf
    rw [read_shift folding hunit]
    exact Nat.le_min.mpr ⟨Nat.le_refl _, ihdate⟩
  | column c =>
    exact Nat.le_trans (by decide) (ends_of_not_isShift folding (.column c) (by simp [Node.isShift])).1
  | number h =>
    exact Nat.le_trans (by decide) (ends_of_not_isShift folding (.number h) (by simp [Node.isShift])).1
  | arithmetic hf hleft hright _ _ =>
    refine Nat.le_trans (by decide) (ends_of_not_isShift folding (.arithmetic hf hleft hright) ?_).1
    exact not_isShift_of_isArithmetic hf
  | negation h _ =>
    exact Nat.le_trans (by decide) (ends_of_not_isShift folding (.negation h) Bool.false_ne_true).1

/-- A shift is a sum, open on both sides. -/
theorem ends_of_isShift (h : n.IsCalculation) (hn : n.isShift) :
    (n.phrase folding).read.floor = Operator.plus.level ∧
      (n.phrase folding).read.limit = Operator.plus.level := by
  cases h with
  | shift hf hdate _ =>
    obtain ⟨unit, hunit, -⟩ := exists_unit_of_isShift hf
    rw [read_shift folding hunit]
    exact ⟨Nat.min_eq_left (le_floor_of_isCalculation folding hdate), rfl⟩
  | arithmetic hf _ _ => exact absurd hn (not_isShift_of_isArithmetic hf)
  | _ => cases hn

/-- A shift may stand in front of `+` and `-`, but not in front of `*` and `/`. -/
theorem le_limit_iff {o : Operator} (hsign : o.level < signLevel) (h : n.IsCalculation) :
    o.level ≤ (n.phrase folding).read.limit ↔ (n.isShift → o.level ≤ Operator.plus.level) := by
  by_cases hn : n.isShift
  · rw [(ends_of_isShift folding h hn).2]
    exact (imp_iff_right hn).symm
  · have hlimit : o.level ≤ Operator.times.level := Nat.le_of_lt_succ hsign
    exact iff_of_true (Nat.le_trans hlimit (ends_of_not_isShift folding h hn).2) (absurd · hn)

/-- A shift may not stand behind an operator. -/
theorem lt_floor_iff {o : Operator} (ho : Operator.plus.level ≤ o.level) (hsign : o.level < signLevel)
    (h : n.IsCalculation) : o.level < (n.phrase folding).read.floor ↔ ¬ n.isShift := by
  by_cases hn : n.isShift
  · rw [(ends_of_isShift folding h hn).1]
    simp [hn, Nat.not_lt.mpr ho]
  · simp [hn, Nat.lt_of_lt_of_le hsign (ends_of_not_isShift folding h hn).1]

theorem grouped_arithmetic_iff {o : Operator} {p q : Phrase Token} :
    (Phrase.group (.binary o p q)).wellGrouped ↔
      o.level ≤ p.limit ∧ o.level < q.floor ∧ p.wellGrouped ∧ q.wellGrouped := by
  simp [Phrase.wellGrouped, and_assoc]

theorem grouped_shift_iff {unit : String} {p q : Phrase Token} (hunit : lead unit = .plain) :
    (Phrase.binary .plus p (.callNamed "make_interval" unit q)).wellGrouped ↔
      Operator.plus.level ≤ p.limit ∧ p.wellGrouped ∧ q.wellGrouped := by
  have hname : lead "make_interval" = .plain := Sql.lead_ofList (by decide)
  have hsign : Operator.plus.level < signLevel := by decide
  simp [Phrase.wellGrouped, Phrase.floor, hname, hunit, hsign, and_assoc]

theorem grouped_negation_iff {p : Phrase Token} : (Phrase.sign true (.group p)).wellGrouped ↔ p.wellGrouped := by
  simp [Phrase.wellGrouped, Phrase.floor]

/-- **Precedence groups a calculation as its tree does exactly if no operator tears a shift apart.** -/
theorem wellGrouped_iff_keepsShifts (h : n.IsCalculation) :
    (n.phrase folding).read.wellGrouped ↔ n.every Node.keepsShifts := by
  induction h with
  | column c => exact iff_of_true (isOperand_column folding c).grouped rfl
  | @number l h => exact iff_of_true (isOperand_literal l).grouped rfl
  | @arithmetic f left right hf hleft hright ihleft ihright =>
    -- The operands stand bare between the parentheses, and their ends meet the operator.
    obtain ⟨o, ho⟩ := exists_operator_of_isArithmetic hf
    have hlevel := level_of_between ho
    rw [read_arithmetic folding ho, grouped_arithmetic_iff, ihleft, ihright,
      le_limit_iff folding hlevel.2 hleft, lt_floor_iff folding hlevel.1 hlevel.2 hright]
    have hkeeps := keepsShifts_iff ho left right
    simp only [Node.every, everyAll, Bool.and_true, Bool.and_eq_true, hkeeps, and_assoc]
  | @negation operand _ ih =>
    rw [read_negation, grouped_negation_iff, ih]
    simp [Node.every, everyAll, Node.keepsShifts]
  | @shift f date amount hf hdate hamount ihdate ihamount =>
    obtain ⟨unit, hunit, hplain⟩ := exists_unit_of_isShift hf
    -- The amount is an argument of a call; the date is open towards the `+`, but even a shift may stand there.
    have hlimit := (le_limit_iff folding (o := .plus) (by decide) hdate).mpr fun _ => Nat.le_refl _
    rw [read_shift folding hunit, grouped_shift_iff hplain, ihdate, ihamount]
    simp [Node.every, everyAll, keepsShifts_of_isShift hf, hlimit]

end Phrases

/-- **A calculation is read as its tree exactly if no operator tears a shift apart.** Every calculation is compiled,
and its text has the tokens of the phrase that its tree stands for. Reading them by precedence gives this phrase back
if and only if no shift of a date is the right operand of `+` or `-` or an operand of `*` or `/`. -/
theorem Adapter.calculation_reads_as_its_tree_iff (a : Adapter) (context : GenerationContext) {n : Node}
    (h : n.IsCalculation) :
    let phrase := (n.phrase a.folding).read
    ∃ sql, (a.compile context n).result = .ok sql ∧ Sql.lex sql.toList = some phrase.tokens ∧
      (Sql.parse phrase.tokens = some phrase ↔ n.every Node.keepsShifts) := by
  intro phrase
  obtain ⟨sql, hsql, hlex⟩ := a.exists_compile_expression context (expressible_of_isCalculation h)
    (plain_of_isCalculation h)
  refine ⟨sql, hsql, hlex, ?_⟩
  rw [Sql.parse_tokens_iff]
  exact wellGrouped_iff_keepsShifts a.folding h

/-- A shift of a shift, by a product, stays together on the left of a difference. -/
theorem Adapter.shift_left_of_minus_stays_together :
    let column := fun name : String => Node.column { metadata := { name, notes := "", type := .date } }
    let product := Node.scalar .mult [column "n", .literal (.exact "-7")]
    let shifted := Node.scalar .addHours [.scalar .addDays [column "d", product], .scalar .neg [column "n"]]
    let n := Node.scalar .sub [shifted, column "e"]
    let a : Adapter := { properties := { entries := [] }, filter := ⟨.preserveCase, false⟩ }
    n.IsCalculation ∧ n.every Node.keepsShifts ∧
      ∃ sql ts, (a.compile {} n).result = .ok sql ∧ Sql.lex sql.toList = some ts ∧
        Sql.parse ts = some (.group (.binary .minus
          (.binary .plus
            (.binary .plus (.atom (.name "d")) (.callNamed "make_interval" "days"
              (.group (.binary .times (.atom (.name "n")) (.sign true (.atom (.number "7")))))))
            (.callNamed "make_interval" "hours" (.sign true (.group (.atom (.name "n"))))))
          (.atom (.name "e")))) := by
  intro column product shifted n a
  have hproduct : product.IsCalculation := .arithmetic rfl (.column _) (.number (by decide))
  have hshifted : shifted.IsCalculation := .shift rfl (.shift rfl (.column _) hproduct) (.negation (.column _))
  have hn : n.IsCalculation := .arithmetic rfl hshifted (.column _)
  have hkeeps : n.every Node.keepsShifts := by decide
  obtain ⟨sql, hsql, hlex, hparse⟩ := a.calculation_reads_as_its_tree_iff {} hn
  exact ⟨hn, hkeeps, sql, _, hsql, hlex, hparse.mpr hkeeps⟩

/-- A shift on the right of a difference loses its date: the amount is added to the difference. -/
theorem Adapter.shift_right_of_minus_torn_apart :
    let column := fun name : String => Node.column { metadata := { name, notes := "", type := .date } }
    let n := Node.scalar .sub [column "x", .scalar .addDays [column "d", .literal (.exact "1")]]
    let a : Adapter := { properties := { entries := [] }, filter := ⟨.convertToUpper, false⟩ }
    n.IsCalculation ∧
      ∃ sql ts, (a.compile {} n).result.toOption = some sql ∧ sql = "(\"x\" - \"d\" + make_interval(days => 1))" ∧
        Sql.lex sql.toList = some ts ∧
        Sql.parse ts = some (.group (.binary .plus
          (.binary .minus (.atom (.name "x")) (.atom (.name "d")))
          (.callNamed "make_interval" "days" (.atom (.number "1"))))) := by
  intro column n a
  refine ⟨.arithmetic rfl (.column _) (.shift rfl (.column _) (.number (by decide))), ?_⟩
  exact ⟨_, _, by decide +kernel, rfl, by decide +kernel, Sql.parse_tokens (by decide +kernel)⟩

end Pushdown
