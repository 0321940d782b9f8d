import Mathlib.Data.List.Infix
import Mathlib.Order.Lattice.Nat
import Pushdown.Suggestion

/-!
# `Proofs.Suggestion` — the suggested option is the earliest of the nearest

How far two texts are apart is defined without a table: it is the least number of single characters that have to be
put in, taken out or replaced, one at a time and anywhere, to turn one text into the other. The table is
shown to hold exactly these numbers. Each of its cells is reached by changes, which is the easy half. For the other half
the distance to a fixed text is followed along any chain of changes: one change moves it by at most one, so
no chain is shorter than the distance that it has to bridge.

## Contents

* `Change`, `Changes`, `leastChanges` — single changes, chains of them, and the shortest chain.
* `tableRow`, `editDistance_concat` — the rows of the table, and what one of its cells is made of.
* `changes_editDistance`, `editDistance_le_of_changes` — the distance is reached, and not undercut.
* `BestOf`, `FirstNearest` — what the search for the nearest option knows after each option.
* `suggest_earliest_nearest` — table and search together.
-/

namespace Pushdown

/-! ## Changes -/

/-- One character is put in, taken out, or replaced. -/
inductive Change : List Char → List Char → Prop
  | insertion (front back : List Char) (c : Char) : Change (front ++ back) (front ++ c :: back)
  | deletion (front back : List Char) (c : Char) : Change (front ++ c :: back) (front ++ back)
  | replacement (front back : List Char) (c d : Char) : Change (front ++ c :: back) (front ++ d :: back)

/-- A number of changes, one after the other, turn one text into another. -/
inductive Changes : Nat → List Char → List Char → Prop
  | none {a : List Char} : Changes 0 a a
  | step {n : Nat} {a b c : List Char} (first : Change a b) (rest : Changes n b c) : Changes (n + 1) a c

/-- The least number of changes that turn one text into another. -/
noncomputable def leastChanges (a b : List Char) : Nat := sInf {n | Changes n a b}

namespace Change

variable {a b : List Char}

/-- What stands behind the changed place does not matter. -/
theorem append (h : Change a b) (more : List Char) : Change (a ++ more) (b ++ more) := by
  cases h with
  | insertion front back c =>
    rw [List.append_assoc, List.append_assoc]
    exact .insertion front (back ++ more) c
  | deletion front back c =>
    rw [List.append_assoc, List.append_assoc]
    exact .deletion front (back ++ more) c
  | replacement front back c d =>
    rw [List.append_assoc, List.append_assoc]
    exact .replacement front (back ++ more) c d

theorem insertion_last (a : List Char) (c : Char) : Change a (a ++ [c]) := by
  have h := insertion a [] c
  rwa [List.append_nil] at h

theorem deletion_last (a : List Char) (c : Char) : Change (a ++ [c]) a := by
  have h := deletion a [] c
  rwa [List.append_nil] at h

end Change

namespace Changes

variable {n : Nat} {a b c : List Char}

theorem append (h : Changes n a b) (more : List Char) : Changes n (a ++ more) (b ++ more) := by
  induction h with
  | none => exact .none
  | step first rest ih => exact .step (first.append more) ih

/-- One more change at the end of a chain. -/
theorem concat (h : Changes n a b) (last : Change b c) : Changes (n + 1) a c := by
  induction h with
  | none => exact .step last .none
  | step first rest ih => exact .step first (ih last)

end Changes

/-! ## The table -/

/-- The row of the table for a text: the cells that tell how far it is from the beginnings of the other text. -/
def tableRow (a b : List Char) : List Nat := a.foldl (nextRow b) (List.range (b.length + 1))

theorem editDistance_eq_getLast (a b : List Char) : editDistance a b = (tableRow a b).getLast?.getD 0 := rfl

theorem tableRow_concat (a b : List Char) (c : Char) : tableRow (a ++ [c]) b = nextRow b (tableRow a b) c := by
  unfold tableRow
  rw [List.foldl_append]
  rfl

/-- A row has one cell for each character, however it is begun. -/
theorem length_extendRow (c : Char) (ds : List Char) :
    ∀ diagonal left ups, ups.length = ds.length → (extendRow c diagonal left ds ups).length = ds.length := by
  induction ds with
  | nil =>
    intro diagonal left ups _
    cases ups <;> rfl
  | cons d ds ih =>
    intro diagonal left ups hups
    cases ups with
    | nil => cases hups
    | cons up ups =>
      rw [extendRow, List.length_cons, List.length_cons, ih _ _ _ (Nat.succ.inj hups)]

theorem length_nextRow {b : List Char} {row : List Nat} (h : row.length = b.length + 1) (c : Char) :
    (nextRow b row c).length = b.length + 1 := by
  cases row with
  | nil => cases h
  | cons first rest =>
    show (extendRow c first (first + 1) b rest).length + 1 = _
    rw [length_extendRow c b _ _ _ (Nat.succ.inj h)]

theorem length_tableRow (a b : List Char) : (tableRow a b).length = b.length + 1 := by
  induction a using List.reverseRecOn with
  | nil => exact List.length_range
  | append_singleton a c ih =>
    rw [tableRow_concat]
    exact length_nextRow ih c

/-- A row is read from left to right, so one more character of the other text is one more cell at its end. The cell
is made of the last cells of the three rows that end one place earlier. -/
theorem extendRow_concat (c d : Char) (ds : List Char) :
    ∀ (diagonal left up : Nat) (ups : List Nat), ups.length = ds.length →
      extendRow c diagonal left (ds ++ [d]) (ups ++ [up]) =
        extendRow c diagonal left ds ups ++
          [min (min (up + 1) ((left :: extendRow c diagonal left ds ups).getLast?.getD 0 + 1))
            ((diagonal :: ups).getLast?.getD 0 + if c = d then 0 else 1)] := by
  induction ds with
  | nil =>
    intro diagonal left up ups hups
    obtain rfl := List.eq_nil_of_length_eq_zero hups
    rfl
  | cons e ds ih =>
    intro diagonal left up ups hups
    cases ups with
    | nil => cases hups
    | cons first ups =>
      rw [List.cons_append, List.cons_append, extendRow, ih _ _ _ _ (Nat.succ.inj hups), extendRow]
      rw [List.getLast?_cons_cons, List.getLast?_cons_cons]
      rfl

/-- One more column adds one more cell to the next row: the least of the cells above it, to its left and between them,
each with the cost of its change. -/
theorem nextRow_concat {b : List Char} {row : List Nat} (h : row.length = b.length + 1) (c d : Char) (up : Nat) :
    nextRow (b ++ [d]) (row ++ [up]) c =
      nextRow b row c ++
        [min (min (up + 1) ((nextRow b row c).getLast?.getD 0 + 1))
          (row.getLast?.getD 0 + if c = d then 0 else 1)] := by
  cases row with
  | nil => cases h
  | cons first rest =>
    show (first + 1) :: extendRow c first (first + 1) (b ++ [d]) (rest ++ [up]) = _
    rw [extendRow_concat c d b _ _ _ _ (Nat.succ.inj h)]
    rfl

/-- The row for a longer text is the row for the shorter one and one more cell. -/
theorem exists_tableRow_concat (a b : List Char) (d : Char) :
    ∃ cell, tableRow a (b ++ [d]) = tableRow a b ++ [cell] := by
  -- the first row counts up, and every further row takes its shape from the one above it
  induction a using List.reverseRecOn with
  | nil =>
    refine ⟨b.length + 1, ?_⟩
    show List.range ((b ++ [d]).length + 1) = List.range (b.length + 1) ++ [b.length + 1]
    rw [List.length_append, List.length_singleton, List.range_succ]
  | append_singleton a c ih =>
    obtain ⟨cell, h⟩ := ih
    rw [tableRow_concat, tableRow_concat, h, nextRow_concat (length_tableRow a b)]
    exact ⟨_, rfl⟩

/-- A row of the table for a longer text goes on the row for the shorter one. -/
theorem tableRow_concat_right (a b : List Char) (d : Char) :
    tableRow a (b ++ [d]) = tableRow a b ++ [editDistance a (b ++ [d])] := by
  obtain ⟨cell, h⟩ := exists_tableRow_concat a b d
  have hcell : editDistance a (b ++ [d]) = cell := by
    rw [editDistance_eq_getLast, h, List.getLast?_concat]
    rfl
  rw [h, hcell]

theorem editDistance_nil (b : List Char) : editDistance [] b = b.length := by
  show (List.range (b.length + 1)).getLast?.getD 0 = b.length
  rw [List.range_succ, List.getLast?_concat]
  rfl

theorem editDistance_nil_right (a : List Char) : editDistance a [] = a.length := by
  have hrow : tableRow a [] = [a.length] := by
    induction a using List.reverseRecOn with
    | nil => rfl
    | append_singleton a c ih =>
      rw [tableRow_concat, ih, List.length_append]
      rfl
  rw [editDistance_eq_getLast, hrow]
  rfl

/-- A cell is made of the cells above it, to its left, and between these two. -/
theorem editDistance_concat (a b : List Char) (c d : Char) :
    editDistance (a ++ [c]) (b ++ [d]) =
      min (min (editDistance a (b ++ [d]) + 1) (editDistance (a ++ [c]) b + 1))
        (editDistance a b + if c = d then 0 else 1) := by
  rw [editDistance_eq_getLast, tableRow_concat, tableRow_concat_right, nextRow_concat (length_tableRow a b),
    ← tableRow_concat, List.getLast?_concat]
  rfl

/-- The cells of a row are the distances from the text to the beginnings of the other one. -/
theorem tableRow_eq (a b : List Char) : tableRow a b = b.inits.map (editDistance a) := by
  induction b using List.reverseRecOn with
  | nil =>
    have hlength := length_tableRow a []
    obtain ⟨cell, hcell⟩ := List.length_eq_one_iff.mp hlength
    show tableRow a [] = [editDistance a []]
    rw [editDistance_eq_getLast, hcell]
    rfl
  | append_singleton b d ih =>
    rw [tableRow_concat_right, ih, List.inits_append, List.map_append]
    rfl

/-! ## The distance is reached -/

theorem changes_insertions (b : List Char) : Changes b.length [] b := by
  induction b using List.reverseRecOn with
  | nil => exact .none
  | append_singleton b d ih =>
    rw [List.length_append]
    exact ih.concat (.insertion_last b d)

theorem changes_deletions (a : List Char) : Changes a.length a [] := by
  induction a using List.reverseRecOn with
  | nil => exact .none
  | append_singleton a c ih =>
    rw [List.length_append]
    exact .step (.deletion_last a c) ih

/-- Texts that end in `c` and `d` are as far apart as what stands before, and one change more if these differ. -/
theorem changes_matched {n : Nat} {a b : List Char} (h : Changes n a b) (c d : Char) :
    Changes (n + if c = d then 0 else 1) (a ++ [c]) (b ++ [d]) := by
  by_cases hcd : c = d
  · subst hcd
    rw [if_pos rfl]
    exact h.append [c]
  · rw [if_neg hcd]
    exact (h.append [c]).concat (.replacement b [] c d)

/-- **The distance is reached.** Induction on both texts from their ends, following the cell that the least value
comes from: a deletion from above, an insertion from the left, a match or a replacement from between them. -/
theorem changes_editDistance (a : List Char) : ∀ b, Changes (editDistance a b) a b := by
  -- along the table: each way to make a cell is a way to end the chain of changes
  induction a using List.reverseRecOn with
  | nil =>
    intro b
    rw [editDistance_nil]
    exact changes_insertions b
  | append_singleton a c iha =>
    intro b
    induction b using List.reverseRecOn with
    | nil =>
      rw [editDistance_nil_right]
      exact changes_deletions (a ++ [c])
    | append_singleton b d ihb =>
      rw [editDistance_concat]
      rcases min_choice (min (editDistance a (b ++ [d]) + 1) (editDistance (a ++ [c]) b + 1))
        (editDistance a b + if c = d then 0 else 1) with h | h
      · rw [h]
        rcases min_choice (editDistance a (b ++ [d]) + 1) (editDistance (a ++ [c]) b + 1) with h | h
        · rw [h]
          exact .step (.deletion_last a c) (iha (b ++ [d]))
        · rw [h]
          exact ihb.concat (.insertion_last b d)
      · rw [h]
        exact changes_matched (iha b) c d

/-! ## The distance is not undercut -/

/-- One more character on the left costs one deletion at most. -/
theorem editDistance_deletion (a b : List Char) (c : Char) :
    editDistance (a ++ [c]) b ≤ editDistance a b + 1 := by
  cases b using List.reverseRecOn with
  | nil => simp [editDistance_nil_right]
  | append_singleton b d =>
    rw [editDistance_concat]
    omega

/-- One more character on the right costs one insertion at most. -/
theorem editDistance_insertion (a b : List Char) (d : Char) :
    editDistance a (b ++ [d]) ≤ editDistance a b + 1 := by
  cases a using List.reverseRecOn with
  | nil => simp [editDistance_nil]
  | append_singleton a c =>
    rw [editDistance_concat]
    omega

/-- Whatever text they are compared with, `a` is farther from it than `a'` by one change at most. -/
def Close (a a' : List Char) : Prop := ∀ b, editDistance a b ≤ editDistance a' b + 1

/-- A character behind a text brings it nearer to another by one change at most. -/
theorem close_concat (a : List Char) (c : Char) : Close a (a ++ [c]) := by
  intro b
  induction b using List.reverseRecOn with
  | nil =>
    simp only [editDistance_nil_right, List.length_append, List.length_singleton]
    omega
  | append_singleton b d ih =>
    have hinsertion := editDistance_insertion a b d
    rw [editDistance_concat a b c d]
    omega

/-- So does another last character. -/
theorem close_replaced (a : List Char) (c c' : Char) : Close (a ++ [c]) (a ++ [c']) := by
  intro b
  induction b using List.reverseRecOn with
  | nil =>
    simp only [editDistance_nil_right, List.length_append, List.length_singleton]
    omega
  | append_singleton b d ih =>
    rw [editDistance_concat a b c d, editDistance_concat a b c' d]
    split <;> split <;> omega

/-- Texts that are close stay so with one more character behind both. -/
theorem Close.concat {a a' : List Char} (h : Close a a') (c : Char) : Close (a ++ [c]) (a' ++ [c]) := by
  intro b
  induction b using List.reverseRecOn with
  | nil =>
    have hlength := h []
    simp only [editDistance_nil_right, List.length_append, List.length_singleton] at hlength ⊢
    omega
  | append_singleton b d ih =>
    -- cell by cell: above, to the left, and between them the two tables differ by one at most
    have habove := h (b ++ [d])
    have hbetween := h b
    rw [editDistance_concat a b c d, editDistance_concat a' b c d]
    omega

/-- And with any text behind both. -/
theorem Close.append {a a' : List Char} (h : Close a a') (back : List Char) : Close (a ++ back) (a' ++ back) := by
  induction back using List.reverseRecOn with
  | nil =>
    rw [List.append_nil, List.append_nil]
    exact h
  | append_singleton back c ih =>
    rw [← List.append_assoc, ← List.append_assoc]
    exact ih.concat c

/-- **One change brings a text nearer by one at most**, wherever it is made: at the end of what stands in front of it,
and then what stands behind is put back. -/
theorem close_of_change {a a' : List Char} (h : Change a a') : Close a a' := by
  cases h with
  | insertion front back c =>
    rw [List.append_cons front c back]
    exact (close_concat front c).append back
  | deletion front back c =>
    have hclose : Close (front ++ [c]) front := fun b => editDistance_deletion front b c
    rw [List.append_cons front c back]
    exact hclose.append back
  | replacement front back c d =>
    rw [List.append_cons front c back, List.append_cons front d back]
    exact (close_replaced front c d).append back

theorem editDistance_self (a : List Char) : editDistance a a = 0 := by
  induction a using List.reverseRecOn with
  | nil => rfl
  | append_singleton a c ih =>
    rw [editDistance_concat, ih, if_pos rfl, Nat.min_zero]

/-- No chain of changes is shorter than the distance. -/
theorem editDistance_le_of_changes {n : Nat} {a b : List Char} (h : Changes n a b) : editDistance a b ≤ n := by
  induction h with
  | none => exact Nat.le_of_eq (editDistance_self _)
  | @step n a a' b first rest ih => exact Nat.le_trans (close_of_change first b) (Nat.succ_le_succ ih)

theorem isLeast_editDistance (a b : List Char) : IsLeast {n | Changes n a b} (editDistance a b) :=
  ⟨changes_editDistance a b, fun _ h => editDistance_le_of_changes h⟩

example : editDistance "KITTEN".toList "SITTING".toList = 3 := by decide

theorem leastChanges_eq (a b : List Char) : leastChanges a b = editDistance a b :=
  (isLeast_editDistance a b).csInf_eq

/-! ## The search -/

/-- The least number of changes between the target and an option, both in upper case. -/
noncomputable def changesBetween (target option : String) : Nat :=
  leastChanges (Text.asciiUpper target).toList (Text.asciiUpper option).toList

/-- The option is as near as any other, and nearer than those before it. -/
def FirstNearest (far : String → Nat) (options : List String) (option : String) : Prop :=
  ∃ before after, options = before ++ option :: after ∧
    (∀ other ∈ before, far option < far other) ∧ ∀ other ∈ after, far option ≤ far other

/-- What the search has found among the options that it has seen. -/
def BestOf (far : String → Nat) (seen : List String) : Option (Nat × String) → Prop
  | none => ∀ option ∈ seen, suggestionLimit < far option
  | some (least, option) => least = far option ∧ least ≤ suggestionLimit ∧ FirstNearest far seen option

section Search

variable {far : String → Nat} {options seen : List String} {option other : String}

/-- A text that is no nearer does not take the place of the first nearest. -/
theorem FirstNearest.concat (h : FirstNearest far seen option) (hfar : far option ≤ far other) :
    FirstNearest far (seen ++ [other]) option := by
  obtain ⟨before, after, rfl, hbefore, hafter⟩ := h
  refine ⟨before, after ++ [other], by simp, hbefore, ?_⟩
  intro o ho
  rcases List.mem_append.mp ho with ho | ho
  · exact hafter o ho
  · rw [List.mem_singleton.mp ho]
    exact hfar

/-- An option that is nearer than all before it is the new best. -/
theorem FirstNearest.of_last (h : ∀ o ∈ seen, far option < far o) : FirstNearest far (seen ++ [option]) option :=
  ⟨seen, [], rfl, h, nofun⟩

/-- No other text is nearer than the first nearest. -/
theorem FirstNearest.le (h : FirstNearest far options option) : ∀ o ∈ options, far option ≤ far o := by
  obtain ⟨before, after, rfl, hbefore, hafter⟩ := h
  intro o ho
  rcases List.mem_append.mp ho with ho | ho
  · exact Nat.le_of_lt (hbefore o ho)
  · rcases List.mem_cons.mp ho with rfl | ho
    · exact Nat.le_refl _
    · exact hafter o ho

theorem FirstNearest.mem (h : FirstNearest far options option) : option ∈ options := by
  obtain ⟨before, after, rfl, -, -⟩ := h
  exact List.mem_append_right before List.mem_cons_self

/-- There is only one first nearest option. -/
theorem FirstNearest.unique (h : FirstNearest far options option) (h' : FirstNearest far options other) :
    option = other := by
  have heq : far option = far other := Nat.le_antisymm (h.le other h'.mem) (h'.le option h.mem)
  obtain ⟨before, after, hoptions, hbefore, -⟩ := h
  obtain ⟨before', after', hoptions', hbefore', -⟩ := h'
  rw [hoptions] at hoptions'
  -- were one of them further in front, it would be nearer than the other
  rcases List.append_eq_append_iff.mp hoptions' with ⟨mid, rfl, hmid⟩ | ⟨mid, rfl, hmid⟩
  · cases mid with
    | nil => exact (List.cons.inj hmid).1
    | cons m mid =>
      obtain ⟨rfl, -⟩ := List.cons.inj hmid
      exact absurd heq (Nat.ne_of_gt (hbefore' _ (by simp)))
  · cases mid with
    | nil => exact (List.cons.inj hmid).1.symm
    | cons m mid =>
      obtain ⟨rfl, -⟩ := List.cons.inj hmid
      exact absurd heq (Nat.ne_of_lt (hbefore _ (by simp)))

/-- One more option is looked at. -/
theorem bestOf_nearer {target : List Char} {best : Option (Nat × String)}
    (hfar : ∀ o, far o = editDistance target (Text.asciiUpper o).toList) (h : BestOf far seen best) (option : String) :
    BestOf far (seen ++ [option]) (nearer target best option) := by
  unfold nearer
  rw [← hfar option]
  dsimp only
  by_cases hlimit : suggestionLimit < far option
  · -- too far: nothing changes
    rw [if_pos hlimit]
    cases best with
    | none =>
      intro o ho
      rcases List.mem_append.mp ho with ho | ho
      · exact h o ho
      · rw [List.mem_singleton.mp ho]
        exact hlimit
    | some found =>
      obtain ⟨hleast, hnear, hfirst⟩ := h
      exact ⟨hleast, hnear, hfirst.concat (by omega)⟩
  · rw [if_neg hlimit]
    cases best with
    | none =>
      have hnearest : ∀ o ∈ seen, far option < far o := fun o ho =>
        Nat.lt_of_le_of_lt (Nat.le_of_not_lt hlimit) (h o ho)
      exact ⟨rfl, Nat.le_of_not_lt hlimit, .of_last hnearest⟩
    | some found =>
      obtain ⟨least, best⟩ := found
      obtain ⟨hleast, hnear, hfirst⟩ := h
      dsimp only
      by_cases hless : far option < least
      · rw [if_pos hless]
        have hnearest : ∀ o ∈ seen, far option < far o := fun o ho =>
          Nat.lt_of_lt_of_le (hleast ▸ hless) (hfirst.le o ho)
        exact ⟨rfl, Nat.le_of_not_lt hlimit, .of_last hnearest⟩
      · -- as near as the best so far: the earlier one stays
        rw [if_neg hless]
        exact ⟨hleast, hnear, hfirst.concat (by omega)⟩

/-- All options are looked at. -/
theorem bestOf_foldl {target : List Char} (hfar : ∀ o, far o = editDistance target (Text.asciiUpper o).toList)
    (options : List String) : BestOf far options (options.foldl (nearer target) none) := by
  induction options using List.reverseRecOn with
  | nil => exact nofun
  | append_singleton options option ih =>
    rw [List.foldl_append]
    exact bestOf_nearer hfar ih option

end Search

theorem bestOf_suggest (target : String) (options : List String) :
    BestOf (changesBetween target) options
      (options.foldl (nearer (Text.asciiUpper target).toList) none) :=
  bestOf_foldl (fun _ => leastChanges_eq _ _) options

/-- **The suggestion is the earliest nearest option.** For any two texts, the last cell of the table is the least number
of changes that turn one into the other, and so is each cell of each row for its beginning of the second text. Nothing
is suggested if and only if all options are more than three changes away, in upper case; an option is suggested if and
only if it is at most three changes away, no option is nearer, and all options before it are farther. -/
theorem suggest_earliest_nearest :
    (∀ a b : List Char, IsLeast {n | Changes n a b} (editDistance a b) ∧
      tableRow a b = b.inits.map (leastChanges a)) ∧
    ∀ (target : String) (options : List String),
      (suggest target options = none ↔ ∀ option ∈ options, 3 < changesBetween target option) ∧
      ∀ option, suggest target options = some option ↔
        changesBetween target option ≤ 3 ∧ FirstNearest (changesBetween target) options option := by
  refine ⟨?_, ?_⟩
  · intro a b
    refine ⟨isLeast_editDistance a b, ?_⟩
    rw [tableRow_eq]
    exact List.map_congr_left fun front _ => (leastChanges_eq a front).symm
  · intro target options
    have hbest := bestOf_suggest target options
    unfold suggest
    cases hfound : options.foldl (nearer (Text.asciiUpper target).toList) none with
    | none =>
      rw [hfound] at hbest
      have hall : ∀ option ∈ options, 3 < changesBetween target option := hbest
      refine ⟨⟨fun _ => hall, fun _ => rfl⟩, ?_⟩
      intro option
      refine ⟨nofun, ?_⟩
      rintro ⟨hnear, hfirst⟩
      exact absurd hnear (Nat.not_le_of_lt (hall option hfirst.mem))
    | some found =>
      obtain ⟨least, best⟩ := found
      rw [hfound] at hbest
      obtain ⟨rfl, hnear, hfirst⟩ := hbest
      refine ⟨⟨nofun, ?_⟩, ?_⟩
      · intro hall
        exact absurd hnear (Nat.not_le_of_lt (hall best hfirst.mem))
      · intro option
        constructor
        · rintro ⟨⟩
          exact ⟨hnear, hfirst⟩
        · rintro ⟨-, hfirst'⟩
          exact congrArg some (hfirst.unique hfirst')

end Pushdown
