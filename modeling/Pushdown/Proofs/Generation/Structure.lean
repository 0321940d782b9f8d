import Pushdown.Proofs.Generation.Tokens
import Pushdown.Proofs.Query.Frame

/-!
# `Proofs.Generation.Structure` — no text of a query becomes SQL

Strings, separators, escapes and the names of columns come from whoever writes the query. Whatever they hold, the
statement that PostgreSQL reads has the same tokens at the same places, and each text arrives there as the one
token that carries it.

## Contents

* `Adapter.texts_keep_structure` — two trees of the same shape.
-/

namespace Pushdown

open Sql (Token Slot)

namespace Adapter

variable (a : Adapter) (context : GenerationContext)

/-- **Texts keep the structure.** Two trees that differ only in strings, separators, escapes and names of columns are
both refused or both compiled. The two compiled texts then have equally many tokens, these are equal but for what
the payload tokens carry, and the payload tokens carry the texts of the trees. -/
theorem texts_keep_structure {m n : Node} (hshape : m.erased = n.erased) (hm : m.plain) (hn : n.plain) :
    ((∃ f, (a.compile context m).result = .error f) ∧ ∃ f, (a.compile context n).result = .error f) ∨
    ∃ s t ss ts,
      (a.compile context m).result = .ok s ∧ (a.compile context n).result = .ok t ∧
      Sql.lex s.toList = some (ss.map Slot.token) ∧ Sql.lex t.toList = some (ts.map Slot.token) ∧
      ss.length = ts.length ∧ framesOf ss = framesOf ts ∧
      payloadsOf ss = m.payloads a.folding ∧ payloadsOf ts = n.payloads a.folding := by
  have hiff : (∃ s, (a.compile context m).result = .ok s) ↔ ∃ t, (a.compile context n).result = .ok t := by
    rw [exists_compile_iff, exists_compile_iff, ← wellFormed_erased m, hshape, wellFormed_erased]
  cases hs : (a.compile context m).result with
  | error f =>
    cases ht : (a.compile context n).result with
    | error g => exact .inl ⟨⟨f, rfl⟩, g, rfl⟩
    | ok t =>
      obtain ⟨s, hs'⟩ := hiff.mpr ⟨t, ht⟩
      cases hs.symm.trans hs'
  | ok s =>
    obtain ⟨t, ht⟩ := hiff.mp ⟨s, hs⟩
    have hframes : framesOf (m.slots a.folding context) = framesOf (n.slots a.folding context) := by
      rw [frames_slots, hshape, ← frames_slots]
    have hlength := congrArg List.length hframes
    simp only [framesOf, List.length_map] at hlength
    have hwm := (exists_compile_iff a context m).mp ⟨s, hs⟩
    have hwn := (exists_compile_iff a context n).mp ⟨t, ht⟩
    exact .inr ⟨s, t, m.slots a.folding context, n.slots a.folding context, rfl, ht,
      lex_compile context hm hs, lex_compile context hn ht, hlength, hframes,
      payloads_slots a.folding context m hwm, payloads_slots a.folding context n hwn⟩

/-- Texts that try to end their token arrive as they are, and the statement keeps its tokens. -/
theorem texts_of_hostile_query :
    let column := fun name : String => Node.column { metadata := { name, notes := "", type := .boolean } }
    let query := fun name separator text escape : String =>
      Node.select (.expressions [.groupConcat (column name) false none (some separator)])
        (.table { name := "T", metadata := { name := "T", columns := [] } })
        (some (.predicate (.like (column name) (.literal (.string text))
          (some (.literal (.string escape)))))) none none none none
    let calm := query "NAME" "," "a%" "!"
    let hostile := query "N\" FROM U; --" "'); --" "\\' OR 1 = 1 --" "'"
    let a : Adapter := { properties := { entries := [] }, filter := ⟨.convertToUpper, false⟩ }
    calm.erased = hostile.erased ∧ calm.plain ∧ hostile.plain ∧
      ∃ s t ss ts, (a.compile {} calm).result = .ok s ∧ (a.compile {} hostile).result = .ok t ∧
        Sql.lex s.toList = some (ss.map Slot.token) ∧ Sql.lex t.toList = some (ts.map Slot.token) ∧
        ss.length = ts.length ∧ framesOf ss = framesOf ts ∧
        payloadsOf ts = [.name "n\" from u; --", .string "'); --", .name "n\" from u; --",
          .string "\\' OR 1 = 1 --", .string "'"] := by
  intro column query calm hostile a
  have hshape : calm.erased = hostile.erased := by rfl
  have hcalm : calm.plain := by rfl
  have hhostile : hostile.plain := by rfl
  refine ⟨hshape, hcalm, hhostile, ?_⟩
  obtain ⟨⟨f, hf⟩, -⟩ | ⟨s, t, ss, ts, hs, ht, hss, hts, hlength, hframes, -, htexts⟩ :=
    texts_keep_structure a {} hshape hcalm hhostile
  · obtain ⟨sql, hsql⟩ := (exists_compile_iff a {} calm).mpr rfl
    cases hf.symm.trans hsql
  · have hwritten : hostile.payloads a.folding = [.name "n\" from u; --", .string "'); --",
        .name "n\" from u; --", .string "\\' OR 1 = 1 --", .string "'"] := by decide +kernel
    exact ⟨s, t, ss, ts, hs, ht, hss, hts, hlength, hframes, htexts.trans hwritten⟩

end Adapter

end Pushdown
