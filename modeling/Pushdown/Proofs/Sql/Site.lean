import Pushdown.Proofs.Sql.Grouping

/-!
# `Proofs.Sql.Site` — what may stand where, between operators

Whether precedence leaves a phrase together depends on what stands before it and what stands behind it. A site says
just that, and it is handed down from an operator to its operands: the left operand has the operator behind it, the
right one has it before it, and towards the other side each of them has what its operator had. A phrase fits into a
site if and only if its operator does and its operands fit into theirs.

## Contents

* `Site` — what stands around a phrase.
* `Phrase.Fits` — the phrase is grouped by precedence and leaves nothing to its neighbours.
* `fits_binary_iff` and its like — from the site of an operator to the sites of its operands.
-/

namespace Pushdown.Sql

/-! ## Sites -/

/-- What stands around a phrase. Brackets and the ends of the text are no neighbours. -/
structure Site where
  /-- The site is inside the lower bound of a BETWEEN. -/
  low : Bool
  /-- The operator that the phrase stands behind. -/
  before : Option Link
  /-- The operator that the phrase stands in front of. -/
  behind : Option Link
deriving DecidableEq

/-- How tightly a neighbour takes the phrase; if there is none, not at all. -/
def pull : Option Link → Nat
  | none => 0
  | some link => link.level

theorem pull_lt (neighbour : Option Link) : pull neighbour < signLevel := by
  cases neighbour with
  | none => decide
  | some link => exact link.level_lt

namespace Link

/-- The tightest operator that may stand behind the right operand. IN and IS have none. -/
def ceiling : Link → Nat
  | .binary o => if o.chains then o.level else o.level - 1
  | .like | .between => likeLevel - 1
  | .inList | .isNull => signLevel

/-- It may stand inside the lower bound of a BETWEEN. -/
def isLow : Link → Bool
  | .binary o => !o.isWord
  | _ => false

end Link

namespace Site

/-- A phrase that stands between brackets or alone. -/
def alone : Site := ⟨false, none, none⟩

/-- The lower bound of a BETWEEN. -/
def lowerBound : Site := ⟨true, none, none⟩

/-- The left operand of a link that stands in the site. -/
def left (site : Site) (link : Link) : Site := { site with behind := some link }

/-- The right operand of a link that stands in the site. -/
def right (site : Site) (link : Link) : Site := { site with before := some link }

/-- The right operand of a link with a keyword behind it that ends the operand. -/
def closed (link : Link) : Site := ⟨false, some link, none⟩

/-- The neighbours leave a link in the site to its operands. -/
def takes (site : Site) (link : Link) : Bool :=
  (!site.low || link.isLow) && pull site.before < link.level && pull site.behind ≤ link.ceiling

end Site

/-! ## Phrases that fit -/

/-- The phrase is grouped by precedence, and its neighbours take nothing out of it. -/
structure Phrase.Fits (site : Site) (p : Phrase Token) : Prop where
  grouped : p.wellGrouped
  isLow : site.low → p.isLow
  floor : pull site.before < p.floor
  limit : pull site.behind ≤ p.limit

theorem Phrase.floor_pos {τ : Type} : ∀ p : Phrase τ, 0 < p.floor
  | .binary o left _ => Nat.lt_min.mpr ⟨by cases o <;> decide, floor_pos left⟩
  | .like value _ _ | .between value _ _ | .inList value _ => Nat.lt_min.mpr ⟨by decide, floor_pos value⟩
  | .isNull _ operand => Nat.lt_min.mpr ⟨by decide, floor_pos operand⟩
  | .atom _ | .path _ _ | .typed _ _ | .group _ | .row _ | .call _ _ _ | .callStar _ | .callNamed _ _ _
  | .cast _ _ | .extract _ _ | .case _ _ _ | .sign _ _ | .not _ => (by decide : 0 < signLevel)

section Shapes

variable {site : Site} {p left right pattern bound high : Phrase Token} {ps : List (Phrase Token)}

/-- Alone, every phrase fits that is grouped by precedence. -/
theorem fits_alone_iff : p.Fits .alone ↔ p.wellGrouped :=
  ⟨Phrase.Fits.grouped, fun h => ⟨h, nofun, p.floor_pos, Nat.zero_le _⟩⟩

theorem fits_lowerBound_iff : p.Fits .lowerBound ↔ p.isLow ∧ p.wellGrouped :=
  ⟨fun h => ⟨h.isLow rfl, h.grouped⟩, fun h => ⟨h.2, fun _ => h.1, p.floor_pos, Nat.zero_le _⟩⟩

/-- A phrase with no open end fits everywhere. -/
theorem fits_closed_iff (hfloor : p.floor = signLevel) (hlimit : p.limit = signLevel) (hlow : p.isLow) :
    p.Fits site ↔ p.wellGrouped := by
  refine ⟨Phrase.Fits.grouped, fun h => ⟨h, fun _ => hlow, ?_, ?_⟩⟩
  · rw [hfloor]
    exact pull_lt site.before
  · rw [hlimit]
    exact Nat.le_of_lt (pull_lt site.behind)

theorem Site.takes_iff {link : Link} :
    site.takes link ↔ (site.low → link.isLow) ∧ pull site.before < link.level ∧
      pull site.behind ≤ link.ceiling := by
  cases hlow : site.low <;> simp [Site.takes, hlow, and_assoc]

/-- **A phrase with an operator fits a site exactly if the site takes the operator and both operands fit the sites
that the operator makes for them.** -/
theorem fits_binary_iff {o : Operator} : (Phrase.binary o left right).Fits site ↔
    site.takes (.binary o) ∧ left.Fits (site.left (.binary o)) ∧ right.Fits (site.right (.binary o)) := by
  rw [Site.takes_iff]
  constructor
  · rintro ⟨hgrouped, hlow, hfloor, hlimit⟩
    simp only [Phrase.wellGrouped, Bool.and_eq_true, decide_eq_true_eq] at hgrouped
    simp only [Phrase.isLow, Bool.and_eq_true] at hlow
    obtain ⟨hbefore, hleft⟩ := Nat.lt_min.mp hfloor
    obtain ⟨hbehind, hright⟩ := Nat.le_min.mp hlimit
    exact ⟨⟨fun h => (hlow h).1.1, hbefore, hbehind⟩,
      ⟨hgrouped.1.2, fun h => (hlow h).1.2, hleft, hgrouped.1.1.1⟩,
      ⟨hgrouped.2, fun h => (hlow h).2, hgrouped.1.1.2, hright⟩⟩
  · rintro ⟨⟨hword, hbefore, hbehind⟩, hleft, hright⟩
    refine ⟨?_, ?_, Nat.lt_min.mpr ⟨hbefore, hleft.floor⟩, Nat.le_min.mpr ⟨hbehind, hright.limit⟩⟩
    · have hlimit : o.level ≤ left.limit := hleft.limit
      have hfloor : o.level < right.floor := hright.floor
      simp [Phrase.wellGrouped, hlimit, hfloor, hleft.grouped, hright.grouped]
    · intro h
      have ho : o.isWord = false := by simpa [Link.isLow] using hword h
      simp [Phrase.isLow, ho, hleft.isLow h, hright.isLow h]

/-- What a word that takes an operand asks of its site and of its left operand. What it asks of the parts behind it
depends on the word. -/
theorem fits_word_iff (link : Link) (last : Nat) {rest : Prop} (hword : link.isLow = false)
    (hlow : p.isLow = false) (hfloor : p.floor = min link.level left.floor)
    (hlimit : p.limit = min link.ceiling last)
    (hgrouped : p.wellGrouped ↔ link.level ≤ left.limit ∧ left.wellGrouped ∧ rest) :
    p.Fits site ↔
      site.takes link ∧ left.Fits (site.left link) ∧ pull site.behind ≤ last ∧ rest := by
  rw [Site.takes_iff, hword]
  constructor
  · rintro ⟨hp, hplace, hbefore, hbehind⟩
    rw [hlow] at hplace
    rw [hfloor, Nat.lt_min] at hbefore
    rw [hlimit, Nat.le_min] at hbehind
    obtain ⟨htaken, hleft, hrest⟩ := hgrouped.mp hp
    refine ⟨⟨hplace, hbefore.1, hbehind.1⟩, ⟨hleft, ?_, hbefore.2, htaken⟩, hbehind.2, hrest⟩
    -- A lower bound takes no word, so nothing is asked of the operand there.
    intro h
    cases hplace h
  · rintro ⟨⟨hplace, hbefore, hbehind⟩, hleft, hlast, hrest⟩
    refine ⟨hgrouped.mpr ⟨hleft.limit, hleft.grouped, hrest⟩, ?_, ?_, ?_⟩
    · rw [hlow]
      exact hplace
    · rw [hfloor]
      exact Nat.lt_min.mpr ⟨hbefore, hleft.floor⟩
    · rw [hlimit]
      exact Nat.le_min.mpr ⟨hbehind, hlast⟩

/-- Outside of lower bounds, the right operand is kept apart by precedence alone. -/
theorem fits_right_iff {link : Link} (h : site.takes link) (hword : link.isLow = false) :
    p.Fits (site.right link) ↔ pull site.behind ≤ p.limit ∧ link.level < p.floor ∧ p.wellGrouped := by
  constructor
  · rintro ⟨hgrouped, -, hfloor, hlimit⟩
    exact ⟨hlimit, hfloor, hgrouped⟩
  · rintro ⟨hlimit, hfloor, hgrouped⟩
    refine ⟨hgrouped, ?_, hfloor, hlimit⟩
    intro hlow
    have hisLow := (Site.takes_iff.mp h).1 hlow
    rw [hword] at hisLow
    cases hisLow

theorem fits_closed_site_iff {link : Link} :
    p.Fits (.closed link) ↔ link.level < p.floor ∧ p.wellGrouped :=
  ⟨fun h => ⟨h.floor, h.grouped⟩, fun h => ⟨h.2, nofun, h.1, Nat.zero_le _⟩⟩

/-- A LIKE without an escape leaves its pattern open to what follows. -/
theorem fits_like_iff : (Phrase.like left pattern none).Fits site ↔
    site.takes .like ∧ left.Fits (site.left .like) ∧ pattern.Fits (site.right .like) := by
  have hgrouped : (Phrase.like left pattern none).wellGrouped ↔
      likeLevel ≤ left.limit ∧ left.wellGrouped ∧ likeLevel < pattern.floor ∧ pattern.wellGrouped := by
    simp only [Phrase.wellGrouped, wellGroupedOption, Option.all_none, Bool.and_true, Bool.and_eq_true,
      decide_eq_true_eq]
    grind
  rw [fits_word_iff .like pattern.limit rfl rfl rfl rfl hgrouped]
  refine and_congr_right fun htakes => and_congr_right fun _ => ?_
  exact (fits_right_iff htakes rfl).symm

/-- An escape ends its LIKE, but it goes to the nearest LIKE in front of it. -/
theorem fits_like_escape_iff {escape : Phrase Token} (hescape : escape.wellGrouped)
    (hfloor : escape.floor = signLevel) (hlimit : escape.limit = signLevel) :
    (Phrase.like left pattern (some escape)).Fits site ↔ site.takes .like ∧ left.Fits (site.left .like) ∧
      pattern.Fits (.closed .like) ∧ ¬ pattern.takesEscape := by
  have hlast : likeLevel < escape.floor := by
    rw [hfloor]
    decide
  have hgrouped : (Phrase.like left pattern (some escape)).wellGrouped ↔ likeLevel ≤ left.limit ∧
      left.wellGrouped ∧ likeLevel < pattern.floor ∧ pattern.wellGrouped ∧ ¬ pattern.takesEscape := by
    simp only [Phrase.wellGrouped, wellGroupedOption, Option.all_some, Bool.and_eq_true, decide_eq_true_eq,
      Bool.not_eq_true', Bool.not_eq_true, hlast, hescape]
    grind
  have hbehind : pull site.behind ≤ escape.limit := by
    rw [hlimit]
    exact Nat.le_of_lt (pull_lt site.behind)
  rw [fits_word_iff .like escape.limit rfl rfl rfl rfl hgrouped, fits_closed_site_iff, and_assoc]
  refine and_congr_right fun _ => and_congr_right fun _ => ?_
  exact and_iff_right hbehind

/-- A BETWEEN puts its lower bound into a site of its own, where AND ends it. -/
theorem fits_between_iff : (Phrase.between left bound high).Fits site ↔ site.takes .between ∧
    left.Fits (site.left .between) ∧ bound.Fits .lowerBound ∧ high.Fits (site.right .between) := by
  have hgrouped : (Phrase.between left bound high).wellGrouped ↔ likeLevel ≤ left.limit ∧ left.wellGrouped ∧
      (bound.isLow ∧ bound.wellGrouped) ∧ likeLevel < high.floor ∧ high.wellGrouped := by
    simp only [Phrase.wellGrouped, Bool.and_eq_true, decide_eq_true_eq]
    grind
  rw [fits_word_iff .between high.limit rfl rfl rfl rfl hgrouped]
  refine and_congr_right fun htakes => and_congr_right fun _ => ?_
  rw [fits_right_iff htakes rfl, fits_lowerBound_iff, and_left_comm]
  rfl

/-- IN has its candidates between brackets, so that only its left operand meets a neighbour. -/
theorem fits_inList_iff (hne : ps ≠ []) : (Phrase.inList left ps).Fits site ↔
    site.takes .inList ∧ left.Fits (site.left .inList) ∧ wellGroupedAll ps := by
  have hgrouped : (Phrase.inList left ps).wellGrouped ↔
      likeLevel ≤ left.limit ∧ left.wellGrouped ∧ wellGroupedAll ps := by
    simp [Phrase.wellGrouped, hne, and_assoc]
  rw [fits_word_iff .inList signLevel rfl rfl rfl rfl hgrouped]
  refine and_congr_right fun _ => and_congr_right fun _ => ?_
  exact and_iff_right (Nat.le_of_lt (pull_lt site.behind))

/-- IS has one operand, on its left. -/
theorem fits_isNull_iff {negated : Bool} : (Phrase.isNull negated p).Fits site ↔
    site.takes .isNull ∧ p.Fits (site.left .isNull) := by
  have hgrouped : (Phrase.isNull negated p).wellGrouped ↔
      Link.isNull.level ≤ p.limit ∧ p.wellGrouped ∧ True := by
    simp [Phrase.wellGrouped]
  rw [fits_word_iff .isNull signLevel rfl rfl rfl rfl hgrouped]
  refine and_congr_right fun _ => and_iff_left ?_
  exact ⟨Nat.le_of_lt (pull_lt site.behind), trivial⟩

/-- NOT is open towards the right only. -/
theorem fits_not_iff : (Phrase.not (.group p)).Fits site ↔
    site.low = false ∧ pull site.behind < notLevel ∧ p.wellGrouped := by
  constructor
  · rintro ⟨hgrouped, hlow, -, hlimit⟩
    refine ⟨?_, ?_, ?_⟩
    · exact Bool.eq_false_iff.mpr fun h => nomatch hlow h
    · exact Nat.lt_of_le_pred (by decide) (Nat.le_min.mp hlimit).1
    · simpa [Phrase.wellGrouped, Phrase.floor, notLevel, signLevel] using hgrouped
  · rintro ⟨hplace, hbehind, hgrouped⟩
    refine ⟨?_, ?_, pull_lt site.before, ?_⟩
    · simpa [Phrase.wellGrouped, Phrase.floor, notLevel, signLevel] using hgrouped
    · simp [hplace]
    · exact Nat.le_min.mpr ⟨Nat.le_pred_of_lt hbehind, Nat.le_of_lt (pull_lt site.behind)⟩

end Shapes

end Pushdown.Sql
