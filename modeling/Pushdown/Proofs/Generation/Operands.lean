import Pushdown.Proofs.Generation.Agreement
import Pushdown.Proofs.Generation.Readability
import Pushdown.Proofs.Sql.Site

/-!
# `Proofs.Generation.Operands` — which conditions may be operands of a condition

AND, OR and NOT put parentheses around conditions; comparisons, LIKE, `~`, BETWEEN, IN and IS do not. A condition that
is an operand of one of these keeps its grouping only where its neighbours are looser than it. Two trees that differ
in their grouping may otherwise have the same text, and PostgreSQL reads it as at most one of them.

## Contents

* `Node.isConditionTree` — conditions over columns and constants, with conditions in the place of any operand.
* `Node.fits` — every condition of the tree stands where its neighbours leave it together.
* `fits_phrase` — the phrase of a tree fits into a site if and only if the tree does.
* `Adapter.condition_reads_as_its_tree_iff` — the same for the text that a caller gets.
-/

namespace Pushdown

open Sql (Token Slot Phrase Operator Site mapAll mapAll_eq_map wellGroupedAll_iff pull notLevel)

/-! ## Conditions with conditions as operands -/

/-- The node is a column, a constant or a condition. -/
def Node.isConditionPart : Node → Bool
  | .column _ | .literal _ | .predicate _ => true
  | _ => false

/-- The node is a condition over columns and constants that can be written, or one of these itself. -/
def Node.isConditionTree (n : Node) : Bool := n.every Node.isConditionPart && n.expressible && n.plain

theorem isConditionTree_iff {n : Node} :
    n.isConditionTree ↔ n.every Node.isConditionPart ∧ n.expressible ∧ n.plain := by
  simp [Node.isConditionTree, and_assoc]

mutual

/-- An ESCAPE behind the text of the node would go to a LIKE inside it. -/
def Node.endsInLike : Node → Bool
  | .predicate p => p.endsInLike
  | _ => false

/-- What stands last decides. A LIKE that has an ESCAPE takes no other. -/
def Predicate.endsInLike : Predicate → Bool
  | .equal _ right | .notEqual _ right | .less _ right | .lessEqual _ right | .regexp _ right => right.endsInLike
  | .like _ _ escape => escape.isNone
  | .between _ _ high => high.endsInLike
  | .and _ | .or _ | .not _ | .inList _ _ | .isNull _ | .isNotNull _ => false

end

mutual

/-- In the given site, every condition of the tree keeps its operands. -/
def Node.fits : Node → Site → Bool
  | .predicate p, site => p.fits site
  | _, _ => true

/-- The site takes the condition, and every operand fits the site that the condition makes for it. -/
def Predicate.fits : Predicate → Site → Bool
  | .and operands, _ | .or operands, _ => allFit operands
  | .not operand, site => !site.low && pull site.behind < notLevel && operand.fits .alone
  | .equal left right, site => site.takes (.binary .equal) &&
    left.fits (site.left (.binary .equal)) && right.fits (site.right (.binary .equal))
  | .notEqual left right, site => site.takes (.binary .notEqual) &&
    left.fits (site.left (.binary .notEqual)) && right.fits (site.right (.binary .notEqual))
  | .less left right, site => site.takes (.binary .less) &&
    left.fits (site.left (.binary .less)) && right.fits (site.right (.binary .less))
  | .lessEqual left right, site => site.takes (.binary .lessEqual) &&
    left.fits (site.left (.binary .lessEqual)) && right.fits (site.right (.binary .lessEqual))
  | .regexp value pattern, site => site.takes (.binary .matches) &&
    value.fits (site.left (.binary .matches)) && pattern.fits (site.right (.binary .matches))
  | .like value pattern none, site => site.takes .like &&
    value.fits (site.left .like) && pattern.fits (site.right .like)
  | .like value pattern (some _), site => site.takes .like &&
    value.fits (site.left .like) && pattern.fits (.closed .like) && !pattern.endsInLike
  | .between value low high, site => site.takes .between &&
    value.fits (site.left .between) && low.fits .lowerBound && high.fits (site.right .between)
  | .inList value candidates, site => site.takes .inList &&
    value.fits (site.left .inList) && allFit candidates
  | .isNull operand, site | .isNotNull operand, site => site.takes .isNull &&
    operand.fits (site.left .isNull)

/-- Every node of the list fits between brackets. -/
def allFit : List Node → Bool
  | [] => true
  | n :: ns => n.fits .alone && allFit ns

end

/-! ## Under AND and OR -/

section Phrases

variable (folding : CaseFolding)

/-- AND and OR take nothing out of the phrase. -/
structure StaysUnderAnd (p : Phrase Token) : Prop where
  floor : Operator.and.level < p.floor
  limit : Operator.and.level ≤ p.limit

theorem IsOperand.staysUnderAnd {p : Phrase Token} (h : Sql.IsOperand p) : StaysUnderAnd p :=
  ⟨h.lt_floor (by decide), h.le_limit (by decide)⟩

theorem staysUnderAnd_connective (o : Operator) (ps : List (Phrase Slot)) :
    StaysUnderAnd (connectivePhrase o ps).read := by
  cases ps with
  | nil => exact ⟨(by decide : Operator.and.level < Sql.signLevel), (by decide : Operator.and.level ≤ Sql.signLevel)⟩
  | cons p ps =>
    exact ⟨(by decide : Operator.and.level < Sql.signLevel), (by decide : Operator.and.level ≤ Sql.signLevel)⟩

/-- The escape of a LIKE is a string constant. -/
theorem escapePhrase_cases (escape : Option Node) :
    escapePhrase escape = none ∨ ∃ text, escapePhrase escape = some (.atom (.payload (.string text))) := by
  unfold escapePhrase
  split
  · exact .inr ⟨_, rfl⟩
  · exact .inl rfl

/-- An escape that can be written is a text. -/
theorem exists_text_of_isEscape {n : Node} (h : isEscape (some n)) : ∃ text, n = .literal (.string text) := by
  unfold isEscape at h
  split at h
  next hnone => cases hnone
  next text heq =>
    cases heq
    exact ⟨text, rfl⟩
  · cases h

/-- Operators that are no words are tighter than AND. -/
theorem StaysUnderAnd.binary {o : Operator} {left right : Phrase Token} (ho : !o.isWord)
    (hleft : StaysUnderAnd left) (hright : StaysUnderAnd right) : StaysUnderAnd (.binary o left right) := by
  have hlevel : Operator.and.level < o.level ∧
      Operator.and.level ≤ if o.chains then o.level else o.level - 1 := by
    revert ho
    cases o <;> decide
  exact ⟨Nat.lt_min.mpr ⟨hlevel.1, hleft.floor⟩, Nat.le_min.mpr ⟨hlevel.2, hright.limit⟩⟩

mutual

theorem staysUnderAnd_phrase : ∀ n : Node, n.every Node.isConditionPart →
    StaysUnderAnd (n.phrase folding).read
  | .column c, _ => IsOperand.staysUnderAnd (isOperand_column folding c)
  | .literal l, _ => IsOperand.staysUnderAnd (isOperand_literal l)
  | .predicate p, h => staysUnderAnd_predicate p h

/-- **Every condition may be an operand of AND and OR, with other conditions inside or not**: all that it has open
towards either side is tighter than AND. -/
theorem staysUnderAnd_predicate : ∀ p : Predicate, p.every Node.isConditionPart →
    StaysUnderAnd (p.phrase folding).read
  | .and operands, _ => staysUnderAnd_connective .and _
  | .or operands, _ => staysUnderAnd_connective .or _
  | .not operand, _ => by
    show StaysUnderAnd (.not (.group _))
    exact ⟨(by decide : Operator.and.level < Sql.signLevel),
      (by decide : Operator.and.level ≤ min (notLevel - 1) Sql.signLevel)⟩
  | .equal left right, h | .notEqual left right, h | .less left right, h
  | .lessEqual left right, h | .regexp left right, h => by
    simp only [Predicate.every, Bool.and_eq_true] at h
    exact (staysUnderAnd_phrase left h.1).binary rfl (staysUnderAnd_phrase right h.2)
  | .like value pattern escape, h => by
    simp only [Predicate.every, Bool.and_eq_true] at h
    refine ⟨Nat.lt_min.mpr ⟨by decide, (staysUnderAnd_phrase value h.1.1).floor⟩, Nat.le_min.mpr ⟨by decide, ?_⟩⟩
    rcases escapePhrase_cases escape with hescape | ⟨text, hescape⟩
    · rw [hescape]
      exact (staysUnderAnd_phrase pattern h.1.2).limit
    · rw [hescape]
      exact (by decide : Operator.and.level ≤ Sql.signLevel)
  | .between value low high, h => by
    simp only [Predicate.every, Bool.and_eq_true] at h
    exact ⟨Nat.lt_min.mpr ⟨by decide, (staysUnderAnd_phrase value h.1.1).floor⟩,
      Nat.le_min.mpr ⟨by decide, (staysUnderAnd_phrase high h.2).limit⟩⟩
  | .inList value candidates, h => by
    simp only [Predicate.every, Bool.and_eq_true] at h
    exact ⟨Nat.lt_min.mpr ⟨by decide, (staysUnderAnd_phrase value h.1).floor⟩,
      (by decide : Operator.and.level ≤ Sql.signLevel)⟩
  | .isNull operand, h | .isNotNull operand, h =>
    ⟨Nat.lt_min.mpr ⟨by decide, (staysUnderAnd_phrase operand h).floor⟩,
      (by decide : Operator.and.level ≤ Sql.signLevel)⟩

end

theorem staysUnderAnd_phrases {ns : List Node} (h : everyAll Node.isConditionPart ns) :
    ∀ p ∈ phrases folding ns, StaysUnderAnd p.read := by
  induction ns with
  | nil => simp [phrases]
  | cons n ns ih =>
    simp only [everyAll, Bool.and_eq_true] at h
    exact List.forall_mem_cons.mpr ⟨staysUnderAnd_phrase folding n h.1, ih h.2⟩

/-- Conditions that are joined by AND or OR are grouped if each of them is. -/
theorem grouped_connective_iff {o : Operator} (ho : o.isWord) {ps : List (Phrase Slot)} (hne : ps ≠ [])
    (hends : ∀ p ∈ ps, StaysUnderAnd p.read) :
    (connectivePhrase o ps).read.wellGrouped ↔ ∀ p ∈ ps, p.read.wellGrouped := by
  constructor
  · intro h
    cases ps with
    | nil => exact absurd rfl hne
    | cons first rest =>
      -- The operands are joined from the left: every operand is the right one of some pair, or the first of all.
      suffices hfold : ∀ left : Phrase Slot,
          (rest.foldl (fun left right => .binary o left right) left).read.wellGrouped →
          left.read.wellGrouped ∧ ∀ p ∈ rest, p.read.wellGrouped by
        simpa using hfold first h
      clear h hne hends
      induction rest with
      | nil => simp
      | cons next rest ih =>
        intro left h
        obtain ⟨hpair, hrest⟩ := ih (.binary o left next) h
        simp only [Phrase.map, Phrase.wellGrouped, Bool.and_eq_true] at hpair
        exact ⟨hpair.1.2, List.forall_mem_cons.mpr ⟨hpair.2, hrest⟩⟩
  · intro h
    refine (isOperand_connective ho hne fun p hp => ?_).grouped
    exact ⟨h p hp, (hends p hp).floor, (hends p hp).limit⟩

/-! ## The phrase of a tree fits where the tree does -/

mutual

theorem takesEscape_phrase : ∀ n : Node, n.every Node.isConditionPart → n.expressible →
    (n.phrase folding).read.takesEscape = n.endsInLike
  | .column c, _, _ => (isOperand_column folding c).not_takesEscape
  | .literal l, _, _ => (isOperand_literal l).not_takesEscape
  | .predicate p, h, he => takesEscape_predicate p h he

/-- The phrase of a condition waits for an ESCAPE exactly if the condition ends in a LIKE without one. -/
theorem takesEscape_predicate : ∀ p : Predicate, p.every Node.isConditionPart → p.expressible →
    (p.phrase folding).read.takesEscape = p.endsInLike
  | .equal left right, h, he | .notEqual left right, h, he | .less left right, h, he
  | .lessEqual left right, h, he | .regexp left right, h, he => by
    simp only [Predicate.every, Bool.and_eq_true] at h
    simp only [Predicate.expressible, Bool.and_eq_true] at he
    exact takesEscape_phrase right h.2 he.2
  | .like value pattern none, _, _ => rfl
  | .like value pattern (some escape), h, he => by
    simp only [Predicate.expressible, Bool.and_eq_true] at he
    obtain ⟨text, rfl⟩ := exists_text_of_isEscape he.2
    rfl
  | .between value low high, h, he => by
    simp only [Predicate.every, Bool.and_eq_true] at h
    simp only [Predicate.expressible, Bool.and_eq_true] at he
    exact takesEscape_phrase high h.2 he.2
  | .and [], _, _ | .and (_ :: _), _, _ | .or [], _, _ | .or (_ :: _), _, _ | .not _, _, _
  | .inList _ _, _, _ | .isNull _, _, _ | .isNotNull _, _, _ => rfl

end

/-- A value fits everywhere. -/
theorem fits_of_isOperand {p : Phrase Token} (h : Sql.IsOperand p) (site : Site) : p.Fits site where
  grouped := h.grouped
  isLow _ := h.low
  floor := h.lt_floor (Sql.pull_lt site.before)
  limit := h.le_limit (Sql.pull_lt site.behind)

theorem fits_connective_iff {o : Operator} {ps : List (Phrase Slot)} (hne : ps ≠ []) (site : Site) :
    (connectivePhrase o ps).read.Fits site ↔ (connectivePhrase o ps).read.wellGrouped := by
  cases ps with
  | nil => exact absurd rfl hne
  | cons p ps => exact Sql.fits_closed_iff rfl rfl rfl

mutual

/-- **The phrase of a tree fits into a site if and only if the tree does.** -/
theorem fits_phrase : ∀ (n : Node) (site : Site), n.every Node.isConditionPart → n.expressible →
    ((n.phrase folding).read.Fits site ↔ n.fits site)
  | .column c, site, _, _ => iff_of_true (fits_of_isOperand (isOperand_column folding c) site) rfl
  | .literal l, site, _, _ => iff_of_true (fits_of_isOperand (isOperand_literal l) site) rfl
  | .predicate p, site, h, he => fits_predicate p site h he
  | .scalar _ _, _, h, _ | .extract _ _, _, h, _ | .case _ _ _, _, h, _ | .cast _ _, _, h, _
  | .aggregate _ _ _, _, h, _ | .groupConcat _ _ _ _, _, h, _ | .select _ _ _ _ _ _ _, _, h, _
  | .selectList _, _, h, _ | .table _, _, h, _ | .join _ _ _ _, _, h, _ | .orderBy _, _, h, _
  | .groupBy _, _, h, _ | .limit _, _, h, _ => by cases h

/-- **The phrase of a condition fits a site exactly if the condition does.** One case for each kind of condition: the
operator has to be taken by the site, and its operands are put into the sites that it makes, where the induction
applies. -/
theorem fits_predicate : ∀ (p : Predicate) (site : Site), p.every Node.isConditionPart → p.expressible →
    ((p.phrase folding).read.Fits site ↔ p.fits site)
  | .and operands, site, h, he | .or operands, site, h, he => by
    simp only [Predicate.expressible, Bool.and_eq_true] at he
    refine (fits_connective_iff (phrases_ne_nil folding he.1) site).trans ?_
    rw [grouped_connective_iff rfl (phrases_ne_nil folding he.1) (staysUnderAnd_phrases folding h)]
    exact grouped_phrases_iff operands h he.2
  | .not operand, site, h, he => by
    show (Phrase.not (.group (operand.phrase folding).read)).Fits site ↔ _
    rw [Sql.fits_not_iff, ← Sql.fits_alone_iff, fits_phrase operand .alone h he]
    simp [Predicate.fits, and_assoc]
  | .equal left right, site, h, he | .notEqual left right, site, h, he | .less left right, site, h, he
  | .lessEqual left right, site, h, he | .regexp left right, site, h, he => by
    simp only [Predicate.every, Bool.and_eq_true] at h
    simp only [Predicate.expressible, Bool.and_eq_true] at he
    refine Sql.fits_binary_iff.trans ?_
    rw [fits_phrase left _ h.1 he.1, fits_phrase right _ h.2 he.2]
    simp [Predicate.fits, and_assoc]
  | .like value pattern none, site, h, he => by
    simp only [Predicate.every, Bool.and_eq_true] at h
    simp only [Predicate.expressible, Bool.and_eq_true] at he
    refine Sql.fits_like_iff.trans ?_
    rw [fits_phrase value _ h.1.1 he.1.1, fits_phrase pattern _ h.1.2 he.1.2]
    simp [Predicate.fits, and_assoc]
  | .like value pattern (some escape), site, h, he => by
    simp only [Predicate.every, Bool.and_eq_true] at h
    simp only [Predicate.expressible, Bool.and_eq_true] at he
    obtain ⟨text, rfl⟩ := exists_text_of_isEscape he.2
    refine (Sql.fits_like_escape_iff rfl rfl rfl).trans ?_
    rw [fits_phrase value _ h.1.1 he.1.1, fits_phrase pattern _ h.1.2 he.1.2,
      takesEscape_phrase folding pattern h.1.2 he.1.2]
    simp [Predicate.fits, and_assoc]
  | .between value low high, site, h, he => by
    simp only [Predicate.every, Bool.and_eq_true] at h
    simp only [Predicate.expressible, Bool.and_eq_true] at he
    refine Sql.fits_between_iff.trans ?_
    rw [fits_phrase value _ h.1.1 he.1.1, fits_phrase low _ h.1.2 he.1.2, fits_phrase high _ h.2 he.2]
    simp [Predicate.fits, and_assoc]
  | .inList value candidates, site, h, he => by
    simp only [Predicate.every, Bool.and_eq_true] at h
    simp only [Predicate.expressible, Bool.and_eq_true] at he
    have hne : mapAll Slot.token (phrases folding candidates) ≠ [] := by
      simpa [mapAll_eq_map] using phrases_ne_nil folding he.1.1
    refine (Sql.fits_inList_iff hne).trans ?_
    rw [fits_phrase value _ h.1 he.1.2, wellGroupedAll_iff, mapAll_eq_map, List.forall_mem_map,
      grouped_phrases_iff candidates h.2 he.2]
    simp [Predicate.fits, and_assoc]
  | .isNull operand, site, h, he | .isNotNull operand, site, h, he => by
    refine Sql.fits_isNull_iff.trans ?_
    rw [fits_phrase operand _ h he]
    simp [Predicate.fits]

/-- Between brackets and commas every operand stands alone. -/
theorem grouped_phrases_iff : ∀ ns : List Node, everyAll Node.isConditionPart ns → allExpressible ns →
    ((∀ p ∈ phrases folding ns, p.read.wellGrouped) ↔ allFit ns)
  | [], _, _ => by simp [phrases, allFit]
  | n :: ns, h, he => by
    simp only [everyAll, Bool.and_eq_true] at h
    simp only [allExpressible, Bool.and_eq_true] at he
    simp only [phrases, List.forall_mem_cons, allFit, Bool.and_eq_true]
    rw [← Sql.fits_alone_iff, fits_phrase n .alone h.1 he.1, grouped_phrases_iff ns h.2 he.2]

end

theorem wellGrouped_iff_fits {n : Node} (h : n.isConditionTree) :
    (n.phrase folding).read.wellGrouped ↔ n.fits .alone := by
  obtain ⟨hparts, hn, -⟩ := isConditionTree_iff.mp h
  rw [← Sql.fits_alone_iff]
  exact fits_phrase folding n .alone hparts hn

end Phrases

/-- **A condition is read as its tree exactly if its operands fit.** Every condition over columns and constants is
compiled, and its text has the tokens of the phrase that its tree stands for. Reading them by precedence gives this
phrase back if and only if every condition inside it stands where its neighbours leave it together; two such trees
that have the same text have the same phrase. -/
theorem Adapter.condition_reads_as_its_tree_iff (a : Adapter) (context : GenerationContext) {n : Node}
    (hn : n.isConditionTree) :
    let phrase := (n.phrase a.folding).read
    ∃ sql, (a.compile context n).result = .ok sql ∧ Sql.lex sql.toList = some phrase.tokens ∧
      (Sql.parse phrase.tokens = some phrase ↔ n.fits .alone) ∧
      ∀ m : Node, m.isConditionTree → m.fits .alone → n.fits .alone →
        (a.compile context m).result = .ok sql → (m.phrase a.folding).read = phrase := by
  intro phrase
  have hcompile : ∀ m : Node, m.isConditionTree → ∃ sql, (a.compile context m).result = .ok sql ∧
      Sql.lex sql.toList = some (m.phrase a.folding).read.tokens := by
    intro m hm
    obtain ⟨-, hm, hplain⟩ := isConditionTree_iff.mp hm
    exact a.exists_compile_expression context hm hplain
  obtain ⟨sql, hsql, hlex⟩ := hcompile n hn
  refine ⟨sql, hsql, hlex, ?_, ?_⟩
  · rw [Sql.parse_tokens_iff]
    exact wellGrouped_iff_fits a.folding hn
  · intro m hm hmfits hnfits hsame
    obtain ⟨other, hother, hmlex⟩ := hcompile m hm
    obtain rfl : other = sql := Except.ok.inj (hother.symm.trans hsame)
    apply Sql.tokens_injective
    · exact (wellGrouped_iff_fits a.folding hm).mpr hmfits
    · exact (wellGrouped_iff_fits a.folding hn).mpr hnfits
    · exact Option.some.inj (hmlex.symm.trans hlex)

/-- A LIKE on the left of a comparison, a comparison under IS, and an IS in a row of candidates keep their operands. -/
theorem Adapter.tight_operands_keep_their_grouping :
    let column := fun name : String => Node.column { metadata := { name, notes := "", type := .boolean } }
    let like := Node.predicate (.like (column "a") (.literal (.string "x")) none)
    let compared := Node.predicate (.equal like (column "b"))
    let listed := Node.predicate (.inList (column "c") [.predicate (.isNull (column "d"))])
    let n := Node.predicate (.and [.predicate (.isNull compared), listed])
    let a : Adapter := { properties := { entries := [] }, filter := ⟨.preserveCase, false⟩ }
    n.isConditionTree ∧ n.fits .alone ∧
      ∃ sql ts, (a.compile {} n).result = .ok sql ∧ Sql.lex sql.toList = some ts ∧
        Sql.parse ts = some (.group (.binary .and
          (.isNull false (.binary .equal (.like (.atom (.name "a")) (.atom (.string "x")) none) (.atom (.name "b"))))
          (.inList (.atom (.name "c")) [.isNull false (.atom (.name "d"))]))) := by
  intro column like compared listed n a
  have hn : n.isConditionTree := by decide
  have hfits : n.fits .alone := by decide
  obtain ⟨sql, hsql, hlex, hparse, -⟩ := a.condition_reads_as_its_tree_iff {} hn
  exact ⟨hn, hfits, sql, _, hsql, hlex, hparse.mpr hfits⟩

/-- A comparison with an IS on its right and an IS around a comparison have the same text. It is read as the
second. -/
theorem Adapter.null_test_takes_comparison :
    let column := fun name : String => Node.column { metadata := { name, notes := "", type := .boolean } }
    let compared := Node.predicate (.equal (column "a") (.predicate (.isNull (column "b"))))
    let tested := Node.predicate (.isNull (.predicate (.equal (column "a") (column "b"))))
    let a : Adapter := { properties := { entries := [] }, filter := ⟨.convertToUpper, false⟩ }
    compared.isConditionTree ∧ tested.isConditionTree ∧ ¬ compared.fits .alone ∧ tested.fits .alone ∧
      ∃ sql ts, sql = "\"a\" = \"b\" IS NULL" ∧ (a.compile {} compared).result.toOption = some sql ∧
        (a.compile {} tested).result.toOption = some sql ∧ Sql.lex sql.toList = some ts ∧
        Sql.parse ts = some (.isNull false (.binary .equal (.atom (.name "a")) (.atom (.name "b")))) := by
  intro column compared tested a
  refine ⟨by decide, by decide, by decide, by decide, ?_⟩
  exact ⟨_, _, rfl, by decide +kernel, by decide +kernel, by decide +kernel, Sql.parse_tokens (by decide +kernel)⟩

end Pushdown
