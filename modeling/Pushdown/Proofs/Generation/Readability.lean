import Pushdown.Proofs.Generation.Tokens
import Pushdown.Proofs.Generation.WellFormed
import Pushdown.Proofs.Sql.Unambiguous

/-!
# `Proofs.Generation.Readability` — PostgreSQL groups a generated expression as its tree does

The generator writes parentheses only around AND and OR, around the operand of NOT, around arithmetic and around
what is negated. Comparisons, LIKE, BETWEEN, IN, `~` and IS stand bare. That is enough as long as their operands
are values: a value is closed, or at most has a sign in front of it, and every condition is tighter than NOT.

An amount that is added to a date is written as a bare sum, and a call of a function named CASE, CAST or EXTRACT
reads as something else; expressions with these are left out.

## Contents

* `Node.regular` — expressions whose operators have values as operands.
* `Sql.IsOperand`, `Sql.IsCondition` — what the phrases of values and of conditions are to an operator around them.
* `isCondition_phrase` — the phrase of a regular expression is grouped by precedence.
* `Adapter.expressions_read_as_their_tree` — the text has one reading.
-/

namespace Pushdown

open Sql (Token Slot Phrase Arm mapAll mapAll_eq_map mapOption mapArms wellGroupedAll wellGroupedOption wellGroupedArms lead)

/-! ## Regular expressions of the query language -/

/-- The function is written as a call or an operator that reads as such. -/
def ScalarFunction.isRegular (f : ScalarFunction) : Bool :=
  match f with
  | .case | .cast | .extract => false
  | .addDays | .addHours | .addMinutes | .addSeconds | .addWeeks | .addMonths | .addYears => false
  | _ => true

/-- The function is written as an operator between its operands. -/
def ScalarFunction.isArithmetic : ScalarFunction → Bool
  | .add | .sub | .mult | .floatDiv => true
  | _ => false

/-- The node is a value and not a condition. -/
def Node.isValue : Node → Bool
  | .predicate _ => false
  | _ => true

mutual

/-- All operators between operands have values there; elsewhere values and conditions may stand. -/
def Node.regular : Node → Bool
  | .column _ | .literal _ => true
  | .predicate p => p.regular
  | .scalar function arguments =>
    function.isRegular && (!function.isArithmetic || arguments.all (·.isValue)) && allRegular arguments
  | .extract unit argument => unit ≠ "" && argument.regular
  | .case basis branches otherwise =>
    optionRegular basis && branchesRegular branches && optionRegular otherwise
  | .cast argument _ => argument.regular
  | .aggregate _ arguments _ => allRegular arguments
  | .groupConcat argument _ _ _ => argument.regular
  | .select _ _ _ _ _ _ _ | .selectList _ | .table _ | .join _ _ _ _ | .orderBy _ | .groupBy _
  | .limit _ => false

/-- Conditions may stand under AND, OR and NOT and among the candidates of IN; all other operands are values. -/
def Predicate.regular : Predicate → Bool
  | .and operands | .or operands => allRegular operands
  | .not operand => operand.regular
  | .equal left right | .notEqual left right | .less left right | .lessEqual left right
  | .regexp left right =>
    left.isValue && right.isValue && left.regular && right.regular
  | .like value pattern _ => value.isValue && pattern.isValue && value.regular && pattern.regular
  | .between value low high =>
    value.isValue && low.isValue && high.isValue && value.regular && low.regular && high.regular
  | .inList value candidates => value.isValue && value.regular && allRegular candidates
  | .isNull operand | .isNotNull operand => operand.isValue && operand.regular

def allRegular : List Node → Bool
  | [] => true
  | n :: ns => n.regular && allRegular ns

def optionRegular : Option Node → Bool
  | none => true
  | some n => n.regular

def branchesRegular : List Branch → Bool
  | [] => true
  | .mk condition result :: rest => condition.regular && result.regular && branchesRegular rest

end

/-! ## Operands and conditions -/

namespace Sql

/-- The phrase may be an operand of every operator between operands. -/
structure IsOperand (p : Phrase Token) : Prop where
  grouped : p.wellGrouped
  floor : signLevel ≤ p.floor
  limit : signLevel - 1 ≤ p.limit
  low : p.isLow

/-- The phrase may be an operand of AND and OR. -/
structure IsCondition (p : Phrase Token) : Prop where
  grouped : p.wellGrouped
  floor : Operator.and.level < p.floor
  limit : Operator.and.level ≤ p.limit

section Shapes

variable {p left right pattern bound high : Phrase Token} {ps : List (Phrase Token)} {level : Nat}

theorem IsOperand.le_limit (h : IsOperand p) (hlevel : level < signLevel) : level ≤ p.limit :=
  Nat.le_trans (Nat.le_sub_one_of_lt hlevel) h.limit

theorem IsOperand.lt_floor (h : IsOperand p) (hlevel : level < signLevel) : level < p.floor :=
  Nat.lt_of_lt_of_le hlevel h.floor

theorem IsOperand.not_takesEscape (h : IsOperand p) : p.takesEscape = false := by
  rw [← Bool.not_eq_true]
  intro htakes
  exact Nat.not_lt.mpr (h.le_limit (by decide)) (Phrase.limit_lt_of_takesEscape htakes)

theorem IsOperand.isCondition (h : IsOperand p) : IsCondition p :=
  ⟨h.grouped, h.lt_floor (by decide), h.le_limit (by decide)⟩

theorem wellGroupedAll_iff : wellGroupedAll ps ↔ ∀ p ∈ ps, p.wellGrouped := by
  induction ps with
  | nil => simp [wellGroupedAll]
  | cons p ps ih => simp [wellGroupedAll, ih]

/-- A phrase with no open end is an operand. -/
theorem isOperand_closed (h : p.wellGrouped) (hfloor : p.floor = signLevel) (hlimit : p.limit = signLevel)
    (hlow : p.isLow) : IsOperand p :=
  ⟨h, Nat.le_of_eq hfloor.symm, by omega, hlow⟩

theorem isOperand_atom {t : Token} (h : t.isValue) : IsOperand (.atom t) :=
  isOperand_closed h rfl rfl rfl

theorem isOperand_group (h : p.wellGrouped) : IsOperand (.group p) :=
  isOperand_closed h rfl rfl rfl

/-- A call has its brackets around it; only its arguments have to be grouped well. -/
theorem isOperand_call {name : String} {distinct : Bool} (hname : lead name = .plain)
    (hdistinct : distinct → ps ≠ []) (h : ∀ p ∈ ps, p.wellGrouped) :
    IsOperand (.call name distinct ps) := by
  refine isOperand_closed ?_ rfl rfl rfl
  have hempty : (distinct && ps.isEmpty) = false := by
    cases distinct with
    | false => rfl
    | true => simpa using hdistinct rfl
  simp [Phrase.wellGrouped, hname, hempty, wellGroupedAll_iff.mpr h]

theorem isOperand_cast {type : List Token} (h : p.wellGrouped) (htype : isType type) :
    IsOperand (.cast p type) :=
  isOperand_closed (by simp [Phrase.wellGrouped, h, htype]) rfl rfl rfl

theorem isOperand_extract {unit : String} (h : p.wellGrouped) (hunit : unit ≠ "") :
    IsOperand (.extract unit p) :=
  isOperand_closed (by simp [Phrase.wellGrouped, h, hunit]) rfl rfl rfl

/-- A sign may stand in front of everything that is an operand. -/
theorem isOperand_sign {negative : Bool} (h : IsOperand p) : IsOperand (.sign negative p) :=
  ⟨by simp [Phrase.wellGrouped, h.floor, h.grouped], Nat.le_refl _,
    Nat.le_min.mpr ⟨Nat.le_refl _, h.limit⟩, h.low⟩

theorem wellGrouped_binary {o : Operator} (hleft : IsOperand left) (hright : IsOperand right) :
    (Phrase.binary o left right).wellGrouped := by
  have ho : o.level < signLevel := by cases o <;> decide
  simp [Phrase.wellGrouped, hleft.le_limit ho, hright.lt_floor ho, hleft.grouped, hright.grouped]

/-- Two operands with an operator between them that is tighter than AND. -/
theorem isCondition_binary {o : Operator} (ho : !o.isWord) (hleft : IsOperand left)
    (hright : IsOperand right) : IsCondition (.binary o left right) := by
  have hlevel : Operator.and.level < o.level ∧
      Operator.and.level ≤ if o.chains then o.level else o.level - 1 := by
    revert ho
    cases o <;> decide
  exact ⟨wellGrouped_binary hleft hright, Nat.lt_min.mpr ⟨hlevel.1, hleft.lt_floor (by decide)⟩,
    Nat.le_min.mpr ⟨hlevel.2, hright.le_limit (by decide)⟩⟩

theorem isCondition_not (h : p.wellGrouped) : IsCondition (.not (.group p)) :=
  ⟨by simpa [Phrase.wellGrouped, Phrase.floor, signLevel, notLevel] using h,
    (by decide : Operator.and.level < signLevel), (by decide : Operator.and.level ≤ min (notLevel - 1) signLevel)⟩

/-- A LIKE of operands is a condition, since operands are tighter than LIKE on either side. -/
theorem isCondition_like {escape : Option (Phrase Token)} (hleft : IsOperand left)
    (hpattern : IsOperand pattern) (hescape : ∀ e ∈ escape, IsOperand e) :
    IsCondition (.like left pattern escape) := by
  have hlike : likeLevel < signLevel := by decide
  refine ⟨?_, Nat.lt_min.mpr ⟨by decide, hleft.lt_floor (by decide)⟩, Nat.le_min.mpr ⟨by decide, ?_⟩⟩
  · cases escape with
    | none =>
      simp [Phrase.wellGrouped, wellGroupedOption, hleft.le_limit hlike, hpattern.lt_floor hlike,
        hleft.grouped, hpattern.grouped]
    | some e =>
      have he := hescape e rfl
      simp [Phrase.wellGrouped, wellGroupedOption, hleft.le_limit hlike, hpattern.lt_floor hlike,
        hpattern.not_takesEscape, he.lt_floor hlike, hleft.grouped, hpattern.grouped, he.grouped]
  · cases escape with
    | none => exact hpattern.le_limit (by decide)
    | some e => exact (hescape e rfl).le_limit (by decide)

theorem isCondition_between (hleft : IsOperand left) (hbound : IsOperand bound) (hhigh : IsOperand high) :
    IsCondition (.between left bound high) := by
  have hlike : likeLevel < signLevel := by decide
  refine ⟨?_, Nat.lt_min.mpr ⟨by decide, hleft.lt_floor (by decide)⟩,
    Nat.le_min.mpr ⟨by decide, hhigh.le_limit (by decide)⟩⟩
  simp [Phrase.wellGrouped, hleft.le_limit hlike, hhigh.lt_floor hlike, hbound.low, hleft.grouped,
    hbound.grouped, hhigh.grouped]

theorem isCondition_inList (hleft : IsOperand left) (hne : ps ≠ []) (h : ∀ p ∈ ps, p.wellGrouped) :
    IsCondition (.inList left ps) := by
  have hlike : likeLevel < signLevel := by decide
  refine ⟨?_, Nat.lt_min.mpr ⟨by decide, hleft.lt_floor (by decide)⟩,
    (by decide : Operator.and.level ≤ signLevel)⟩
  simp [Phrase.wellGrouped, hleft.le_limit hlike, hne, hleft.grouped, wellGroupedAll_iff.mpr h]

theorem isCondition_isNull {negated : Bool} (h : IsOperand p) : IsCondition (.isNull negated p) := by
  refine ⟨?_, Nat.lt_min.mpr ⟨by decide, h.lt_floor (by decide)⟩,
    (by decide : Operator.and.level ≤ signLevel)⟩
  have hnull : Link.isNull.level < signLevel := by decide
  simp [Phrase.wellGrouped, h.le_limit hnull, h.grouped]

theorem isOperand_typed {type : String} (htype : lead type = .plain) (text : String) :
    IsOperand (.typed type (.string text)) :=
  isOperand_closed (by simp [Phrase.wellGrouped, htype, Token.isString]) rfl rfl rfl

end Shapes

end Sql

/-! ## The phrases of regular expressions -/

open Sql (IsOperand IsCondition isOperand_atom isOperand_group isOperand_call isOperand_closed isOperand_sign)

theorem lead_scalarName (f : ScalarFunction) (h : f.isRegular) : lead (Enumeration.name f) = .plain := by
  cases f with
  | case => cases h
  | cast => cases h
  | extract => cases h
  | _ => exact Sql.lead_ofList (by decide)

theorem lead_aggregateName (f : AggregateFunction) : lead (Enumeration.name f) = .plain := by
  cases f <;> exact Sql.lead_ofList (by decide)

theorem lead_renamed {f : ScalarFunction} {name : String} (h : f.form = .renamed name) :
    lead name = .plain := by
  cases f with
  | substr | hashMd5 | rand =>
    cases h
    exact Sql.lead_ofList (by decide)
  | _ => cases h

theorem not_isRegular_of_interval {f : ScalarFunction} {unit : String} (h : f.form = .interval unit) :
    ¬ f.isRegular := by
  cases f with
  | addDays | addHours | addMinutes | addSeconds | addWeeks | addMonths | addYears => decide
  | _ => cases h

theorem isArithmetic_of_between {f : ScalarFunction} {o : Sql.Operator} (h : f.form = .between o) :
    f.isArithmetic := by
  cases f with
  | add | sub | mult | floatDiv => rfl
  | _ => cases h

theorem isOperand_number (cs : List Char) : IsOperand (numberPhrase cs).read := by
  unfold numberPhrase
  split
  · exact isOperand_sign (isOperand_atom rfl)
  · exact isOperand_sign (isOperand_atom rfl)
  · exact isOperand_atom rfl

/-- A constant is an operand, a negative number too, since a sign is tighter than all operators. -/
theorem isOperand_literal (l : Literal) : IsOperand l.phrase.read := by
  cases l with
  | null => exact isOperand_atom (by decide)
  | bool value => cases value <;> exact isOperand_atom (by decide)
  | date text => exact Sql.isOperand_typed (by decide) text
  | timestamp text => exact Sql.isOperand_typed (by decide) text
  | timestampUtc text => exact Sql.isOperand_typed (by decide) text
  | double value =>
    rw [Literal.phrase]
    split
    · exact isOperand_number _
    · exact Sql.isOperand_cast rfl (by decide)
  | exact text => exact isOperand_number _
  | string text => exact isOperand_atom rfl

theorem isOperand_column (folding : CaseFolding) (c : Column) : IsOperand (c.phrase folding).read := by
  unfold Column.phrase
  cases c.qualifier with
  | none => exact isOperand_atom rfl
  | some table => exact isOperand_closed rfl rfl rfl rfl

theorem isType_tokens (t : CanonicalType) : Sql.isType t.tokens := by
  cases t with
  | timestamp zoned => cases zoned <;> rfl
  | _ => rfl

section Calls

variable {f : ScalarFunction} {ps : List (Phrase Slot)}

theorem grouped_mapAll (h : ∀ p ∈ ps, IsCondition p.read) :
    ∀ p ∈ mapAll Slot.token ps, p.wellGrouped := by
  rw [mapAll_eq_map, List.forall_mem_map]
  exact fun p hp => (h p hp).grouped

/-- **A regular call is an operand, in whatever form it is written.** Operators come with parentheses around them, the
sign with parentheses around its operand; all other forms have brackets of their own. -/
theorem isOperand_scalar (hf : f.isRegular) (harity : ∀ n ∈ f.form.arity?, ps.length = n)
    (h : ∀ p ∈ ps, IsCondition p.read) (hvalues : f.isArithmetic → ∀ p ∈ ps, IsOperand p.read) :
    IsOperand (f.form.phrase f ps).read := by
  have hname := lead_scalarName f hf
  have hall := grouped_mapAll h
  cases hform : f.form with
  | renamed name => exact isOperand_call (lead_renamed hform) (by simp) hall
  | call => exact isOperand_call hname (by simp) hall
  -- an amount that is added to a date would be a sum without parentheses
  | interval unit => exact absurd hf (not_isRegular_of_interval hform)
  | bare =>
    cases ps with
    | nil => exact isOperand_atom (decide_eq_true hname)
    | cons p ps => exact isOperand_call hname (by simp) hall
  | between o =>
    rw [hform] at harity
    have hops := hvalues (isArithmetic_of_between hform)
    match ps, harity 2 rfl with
    | [left, right], _ =>
      exact isOperand_group (Sql.wellGrouped_binary (hops left (by simp)) (hops right (by simp)))
  | datePart =>
    rw [hform] at harity
    match ps, harity 1 rfl with
    | [date], _ =>
      refine isOperand_call (by decide) (by simp) ?_
      intro p hp
      simp only [mapAll, List.mem_cons, List.not_mem_nil, or_false] at hp
      rcases hp with rfl | rfl
      · rfl
      · exact (h date (by simp)).grouped
  | epoch =>
    rw [hform] at harity
    match ps, harity 1 rfl with
    | [date], _ => exact Sql.isOperand_extract (h date (by simp)).grouped (by decide)
  | sign =>
    rw [hform] at harity
    match ps, harity 1 rfl with
    | [operand], _ => exact isOperand_sign (isOperand_group (h operand (by simp)).grouped)

/-- An aggregate function is an operand; with DISTINCT, several arguments are one row. -/
theorem isOperand_aggregate (function : AggregateFunction) (distinct : Bool)
    (h : ∀ p ∈ ps, IsCondition p.read) : IsOperand (aggregatePhrase function distinct ps).read := by
  have hname := lead_aggregateName function
  have hall := grouped_mapAll h
  unfold aggregatePhrase
  split
  · exact isOperand_closed (by simpa [Phrase.map, Phrase.wellGrouped] using hname) rfl rfl rfl
  next hempty =>
    have hne : mapAll Slot.token ps ≠ [] := by
      cases ps with
      | nil => exact absurd rfl hempty
      | cons p ps => simp [mapAll]
    split
    -- several arguments with DISTINCT are written as one row
    next hseveral =>
      simp only [Bool.and_eq_true, decide_eq_true_eq] at hseveral
      have hlength : 2 ≤ (mapAll Slot.token ps).length := by
        rw [mapAll_eq_map, List.length_map]
        exact hseveral.2
      refine isOperand_call hname (by simp [mapAll]) ?_
      simpa [mapAll, Phrase.map, Phrase.wellGrouped, hlength] using Sql.wellGroupedAll_iff.mpr hall
    · exact isOperand_call hname (fun _ => hne) hall

/-- Conditions joined by AND, or by OR. -/
theorem isOperand_connective {o : Sql.Operator} (ho : o.isWord) (hne : ps ≠ [])
    (h : ∀ p ∈ ps, IsCondition p.read) : IsOperand (connectivePhrase o ps).read := by
  have hlevel : o.level ≤ Sql.Operator.and.level ∧ o.chains := by
    revert ho
    cases o <;> decide
  cases ps with
  | nil => exact absurd rfl hne
  | cons first rest =>
    have hfirst := h first (by simp)
    -- The chain grows to its left: what is joined so far stays open enough for the same operator once more.
    suffices hfold : ∀ left : Phrase Slot, left.read.wellGrouped → o.level ≤ left.read.limit →
        (rest.foldl (fun left right => .binary o left right) left).read.wellGrouped from
      isOperand_group (hfold first hfirst.grouped (Nat.le_trans hlevel.1 hfirst.limit))
    have hrest : ∀ p ∈ rest, IsCondition p.read := fun p hp => h p (by simp [hp])
    clear h hne
    induction rest with
    | nil => exact fun left hleft _ => hleft
    | cons next rest ih =>
      intro left hleft hlimit
      have hnext := hrest next (by simp)
      refine ih (fun p hp => hrest p (by simp [hp])) (.binary o left next) ?_ ?_
      · simp [Phrase.map, Phrase.wellGrouped, hleft, hlimit, hnext.grouped,
          Nat.lt_of_le_of_lt hlevel.1 hnext.floor]
      · simp only [Phrase.map, Phrase.limit, hlevel.2, if_true]
        exact Nat.le_min.mpr ⟨Nat.le_refl _, Nat.le_trans hlevel.1 hnext.limit⟩

end Calls

section Expressions

variable (folding : CaseFolding)

theorem of_isOperand {p : Phrase Token} {value : Prop} (h : IsOperand p) :
    IsCondition p ∧ (value → IsOperand p) :=
  ⟨h.isCondition, fun _ => h⟩

theorem phrases_ne_nil {ns : List Node} (h : !ns.isEmpty) : phrases folding ns ≠ [] := by
  cases ns with
  | nil => cases h
  | cons n ns => simp [phrases]

theorem isOperand_escape {escape : Option Node} (h : isEscape escape) :
    ∀ p ∈ mapOption Slot.token (escapePhrase escape), IsOperand p := by
  unfold isEscape at h
  split at h
  · simp [escapePhrase, mapOption]
  · intro p hp
    cases hp
    exact isOperand_atom rfl
  · cases h

mutual

/-- The phrase of a regular expression is grouped by precedence, and that of a value is closed enough to be an
operand. -/
theorem isCondition_phrase : ∀ n : Node, n.regular → n.expressible →
    IsCondition (n.phrase folding).read ∧ (n.isValue → IsOperand (n.phrase folding).read)
  | .column c, _, _ => of_isOperand (isOperand_column folding c)
  | .literal l, _, _ => of_isOperand (isOperand_literal l)
  | .predicate p, hr, he => ⟨isCondition_predicate p hr he, by simp [Node.isValue]⟩
  | .scalar function arguments, hr, he => by
    simp only [Node.regular, Bool.and_eq_true, Bool.or_eq_true, Bool.not_eq_true'] at hr
    simp only [Node.expressible, Bool.and_eq_true, takes_iff] at he
    obtain ⟨hall, hvalues⟩ := isCondition_phrases arguments hr.2 he.2
    refine of_isOperand (isOperand_scalar hr.1.1 (by simpa only [length_phrases] using he.1) hall ?_)
    intro harithmetic
    exact hvalues (hr.1.2.resolve_left (by simp [harithmetic]))
  | .extract unit argument, hr, he => by
    simp only [Node.regular, Bool.and_eq_true, decide_eq_true_eq] at hr
    -- the unit is written in capitals, which makes no name empty
    have hunit : Text.asciiUpper unit ≠ "" := by
      intro hempty
      have hchars : unit.toList.map Char.toUpper = [] := String.ofList_inj.mp hempty
      exact hr.1 (String.toList_eq_nil_iff.mp (List.map_eq_nil_iff.mp hchars))
    exact of_isOperand (Sql.isOperand_extract (isCondition_phrase argument hr.2 he).1.grouped hunit)
  | .case basis branches otherwise, hr, he => by
    simp only [Node.regular, Bool.and_eq_true] at hr
    simp only [Node.expressible, Bool.and_eq_true] at he
    -- CASE and END close the phrase, so that only its parts are left to check
    refine of_isOperand (isOperand_closed ?_ rfl rfl rfl)
    have hne : (mapArms Slot.token (armPhrases folding branches)).isEmpty = branches.isEmpty := by
      match branches with
      | [] | .mk _ _ :: _ => rfl
    simp [Node.phrase, Phrase.map, Phrase.wellGrouped, hne, he.1.1.1, wellGrouped_option basis hr.1.1 he.1.2,
      wellGrouped_arms branches hr.1.2 he.1.1.2, wellGrouped_option otherwise hr.2 he.2]
  | .cast argument type, hr, he =>
    of_isOperand (Sql.isOperand_cast (isCondition_phrase argument hr he).1.grouped (isType_tokens type))
  | .aggregate function arguments distinct, hr, he =>
    of_isOperand (isOperand_aggregate function distinct (isCondition_phrases arguments hr he).1)
  | .groupConcat argument distinct _ separator, hr, he => by
    have hargument := (isCondition_phrase argument hr he).1
    have hseparator : IsCondition (separatorPhrase separator).read := by
      cases separator <;> exact (isOperand_atom rfl).isCondition
    refine of_isOperand (isOperand_call (by decide) (by simp [mapAll]) ?_)
    exact grouped_mapAll (by simpa using ⟨hargument, hseparator⟩)

/-- **The phrase of a regular condition may be an operand of AND and OR.** One case for each kind of condition: its
operands are values, and so tighter than any operator of conditions. -/
theorem isCondition_predicate : ∀ p : Predicate, p.regular → p.expressible →
    IsCondition (p.phrase folding).read
  | .and operands, hr, he => by
    simp only [Predicate.expressible, Bool.and_eq_true] at he
    exact (isOperand_connective rfl (phrases_ne_nil folding he.1)
      (isCondition_phrases operands hr he.2).1).isCondition
  | .or operands, hr, he => by
    simp only [Predicate.expressible, Bool.and_eq_true] at he
    exact (isOperand_connective rfl (phrases_ne_nil folding he.1)
      (isCondition_phrases operands hr he.2).1).isCondition
  | .not operand, hr, he => Sql.isCondition_not (isCondition_phrase operand hr he).1.grouped
  | .equal left right, hr, he | .notEqual left right, hr, he | .less left right, hr, he
  | .lessEqual left right, hr, he | .regexp left right, hr, he => by
    simp only [Predicate.regular, Bool.and_eq_true] at hr
    simp only [Predicate.expressible, Bool.and_eq_true] at he
    exact Sql.isCondition_binary rfl ((isCondition_phrase left hr.1.2 he.1).2 hr.1.1.1)
      ((isCondition_phrase right hr.2 he.2).2 hr.1.1.2)
  | .like value pattern escape, hr, he => by
    simp only [Predicate.regular, Bool.and_eq_true] at hr
    simp only [Predicate.expressible, Bool.and_eq_true] at he
    refine Sql.isCondition_like ((isCondition_phrase value hr.1.2 he.1.1).2 hr.1.1.1)
      ((isCondition_phrase pattern hr.2 he.1.2).2 hr.1.1.2) ?_
    exact isOperand_escape he.2
  | .between value low high, hr, he => by
    simp only [Predicate.regular, Bool.and_eq_true] at hr
    simp only [Predicate.expressible, Bool.and_eq_true] at he
    obtain ⟨⟨⟨⟨⟨hvalue, hlow⟩, hhigh⟩, hrv⟩, hrl⟩, hrh⟩ := hr
    exact Sql.isCondition_between ((isCondition_phrase value hrv he.1.1).2 hvalue)
      ((isCondition_phrase low hrl he.1.2).2 hlow) ((isCondition_phrase high hrh he.2).2 hhigh)
  | .inList value candidates, hr, he => by
    simp only [Predicate.regular, Bool.and_eq_true] at hr
    simp only [Predicate.expressible, Bool.and_eq_true] at he
    have hne : mapAll Slot.token (phrases folding candidates) ≠ [] := by
      simpa [mapAll_eq_map] using phrases_ne_nil folding he.1.1
    exact Sql.isCondition_inList ((isCondition_phrase value hr.1.2 he.1.2).2 hr.1.1) hne
      (grouped_mapAll (isCondition_phrases candidates hr.2 he.2).1)
  | .isNull operand, hr, he | .isNotNull operand, hr, he => by
    simp only [Predicate.regular, Bool.and_eq_true] at hr
    exact Sql.isCondition_isNull ((isCondition_phrase operand hr.2 he).2 hr.1)

/-- Operands one by one: conditions all of them, and operands those that are values. -/
theorem isCondition_phrases : ∀ ns : List Node, allRegular ns → allExpressible ns →
    (∀ p ∈ phrases folding ns, IsCondition p.read) ∧
      (ns.all (·.isValue) → ∀ p ∈ phrases folding ns, IsOperand p.read)
  | [], _, _ => by simp [phrases]
  | n :: ns, hr, he => by
    simp only [allRegular, Bool.and_eq_true] at hr
    simp only [allExpressible, Bool.and_eq_true] at he
    obtain ⟨hn, hvalue⟩ := isCondition_phrase n hr.1 he.1
    obtain ⟨hns, hvalues⟩ := isCondition_phrases ns hr.2 he.2
    simp only [phrases, List.mem_cons, forall_eq_or_imp, List.all_cons, Bool.and_eq_true]
    exact ⟨⟨hn, hns⟩, fun h => ⟨hvalue h.1, hvalues h.2⟩⟩

theorem wellGrouped_option : ∀ n : Option Node, optionRegular n → optionExpressible n →
    wellGroupedOption (mapOption Slot.token (optionPhrase folding n))
  | none, _, _ => rfl
  | some n, hr, he => (isCondition_phrase n hr he).1.grouped

theorem wellGrouped_arms : ∀ bs : List Branch, branchesRegular bs → branchesExpressible bs →
    wellGroupedArms (mapArms Slot.token (armPhrases folding bs))
  | [], _, _ => rfl
  | .mk condition result :: rest, hr, he => by
    simp only [branchesRegular, Bool.and_eq_true] at hr
    simp only [branchesExpressible, Bool.and_eq_true] at he
    simp [armPhrases, mapArms, wellGroupedArms, (isCondition_phrase condition hr.1.1 he.1.1).1.grouped,
      (isCondition_phrase result hr.1.2 he.1.2).1.grouped, wellGrouped_arms rest hr.2 he.2]

end

end Expressions

/-! ## Expressions are no clauses -/

/-- The node is a clause or a statement. -/
def Node.isClause : Node → Bool
  | .select _ _ _ _ _ _ _ | .selectList _ | .table _ | .join _ _ _ _ | .orderBy _ | .groupBy _
  | .limit _ => true
  | _ => false

section Clauses

variable {n : Node}

theorem not_isClause_of_regular (h : n.regular) : !n.isClause := by
  cases n with
  | select _ _ _ _ _ _ _ | selectList _ | table _ | join _ _ _ _ | orderBy _ | groupBy _ | limit _ => cases h
  | _ => rfl

theorem not_isClause_of_expressible (h : n.expressible) : !n.isClause := by
  cases n with
  | select _ _ _ _ _ _ _ | selectList _ | table _ | join _ _ _ _ | orderBy _ | groupBy _ | limit _ => cases h
  | _ => rfl

/-- What is no clause has the tokens of its phrase. -/
theorem tokens_slots (folding : CaseFolding) (context : GenerationContext) (h : !n.isClause) :
    (n.slots folding context).map Slot.token = (n.phrase folding).read.tokens := by
  cases n with
  | select _ _ _ _ _ _ _ | selectList _ | table _ | join _ _ _ _ | orderBy _ | groupBy _ | limit _ => cases h
  | _ => exact tokens_yield _

theorem wellFormed_eq_expressible (h : !n.isClause) : n.wellFormed = n.expressible := by
  cases n with
  | select _ _ _ _ _ _ _ | selectList _ | table _ | join _ _ _ _ | orderBy _ | groupBy _ | limit _ => cases h
  | _ => rfl

theorem tokens_slots_of_regular (folding : CaseFolding) (context : GenerationContext) (h : n.regular) :
    (n.slots folding context).map Slot.token = (n.phrase folding).read.tokens :=
  tokens_slots folding context (not_isClause_of_regular h)

theorem expressible_of_regular (h : n.regular) (hn : n.wellFormed) : n.expressible := by
  rwa [wellFormed_eq_expressible (not_isClause_of_regular h)] at hn

end Clauses

/-- Every expression is compiled, and its text has the tokens of its phrase. -/
theorem Adapter.exists_compile_expression (a : Adapter) (context : GenerationContext) {n : Node}
    (hn : n.expressible) (hplain : n.plain) :
    ∃ sql, (a.compile context n).result = .ok sql ∧
      Sql.lex sql.toList = some (n.phrase a.folding).read.tokens := by
  have hclause := not_isClause_of_expressible hn
  obtain ⟨sql, hsql⟩ := (a.exists_compile_iff context n).mpr (by rwa [wellFormed_eq_expressible hclause])
  refine ⟨sql, hsql, ?_⟩
  rw [lex_compile context hplain hsql, tokens_slots a.folding context hclause]

/-- **A regular expression is read as its tree.** The tokens of a compiled text are those of the phrase that its
tree stands for. Reading them by precedence succeeds and gives this phrase back, with every operand where the tree
has it, and no other phrase that is grouped by precedence has the same tokens. -/
theorem Adapter.expressions_read_as_their_tree (a : Adapter) (context : GenerationContext) {n : Node}
    {sql : String} (hregular : n.regular) (hplain : n.plain)
    (h : (a.compile context n).result = .ok sql) :
    let phrase := (n.phrase a.folding).read
    Sql.lex sql.toList = some phrase.tokens ∧ Sql.parse phrase.tokens = some phrase ∧
      phrase.wellGrouped ∧ ∀ p : Phrase Token, p.wellGrouped → p.tokens = phrase.tokens → p = phrase := by
  intro phrase
  have hwritten := expressible_of_regular hregular ((a.exists_compile_iff context n).mp ⟨sql, h⟩)
  have hgrouped := (isCondition_phrase a.folding n hregular hwritten).1.grouped
  refine ⟨?_, Sql.parse_tokens hgrouped, hgrouped, fun p hp => Sql.tokens_injective hp hgrouped⟩
  rw [lex_compile context hplain h, tokens_slots_of_regular a.folding context hregular]

/-- The AND of a BETWEEN and the AND around it, a difference of a signed number, and a comparison behind NOT all find
their operands. -/
theorem Adapter.bare_operators_read_as_their_tree :
    let column := fun name : String => Node.column { metadata := { name, notes := "", type := .boolean } }
    let difference := Node.scalar .sub [column "a", .literal (.exact "-1")]
    let n := Node.predicate (.and
      [.predicate (.between (column "a") (.literal (.exact "-5")) (.scalar .neg [column "b"])),
        .predicate (.not (.predicate (.equal difference (column "b"))))])
    let a : Adapter := { properties := { entries := [] }, filter := ⟨.preserveCase, false⟩ }
    n.regular ∧ n.plain ∧ ∃ sql ts, (a.compile {} n).result = .ok sql ∧ Sql.lex sql.toList = some ts ∧
      Sql.parse ts = some (.group (.binary .and
        (.between (.atom (.name "a")) (.sign true (.atom (.number "5")))
          (.sign true (.group (.atom (.name "b")))))
        (.not (.group (.binary .equal
          (.group (.binary .minus (.atom (.name "a")) (.sign true (.atom (.number "1")))))
          (.atom (.name "b"))))))) := by
  intro column difference n a
  have hregular : n.regular := by rfl
  have hplain : n.plain := by decide +kernel
  obtain ⟨sql, hsql⟩ := (a.exists_compile_iff {} n).mpr rfl
  obtain ⟨hlex, hparse, -, -⟩ := expressions_read_as_their_tree a {} hregular hplain hsql
  exact ⟨hregular, hplain, sql, _, hsql, hlex, hparse⟩

end Pushdown
