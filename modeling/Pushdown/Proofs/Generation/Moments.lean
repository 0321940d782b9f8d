import Pushdown.Proofs.Generation.Tokens
import Pushdown.Proofs.Sql.Constant

/-!
# `Proofs.Generation.Moments` — the texts of dates and timestamps

A string constant of a query is given to the printer with every quote written twice, and so it always comes back. The
text of a date or a timestamp is given to it as it stands, so that it comes back only if none of its quotes looks as
if it were escaped already. Otherwise the remote engine reads another text, or the rest of the text as SQL.

## Contents

* `Literal.moment?` — the keyword and the text of a date or a timestamp.
* `Adapter.moment_keeps_text_iff` — the moments whose text comes back.
-/

namespace Pushdown

/-- The keyword and the text of a constant that is a date or a timestamp. -/
def Literal.moment? : Literal → Option (String × String)
  | .date text => some ("DATE", text)
  | .timestamp text | .timestampUtc text => some ("TIMESTAMP", text)
  | .null | .bool _ | .double _ | .exact _ | .string _ => none

section Moments

variable {l : Literal} {keyword text : String}

theorem isWord_of_moment? (h : l.moment? = some (keyword, text)) : Sql.isWord keyword := by
  cases l with
  | date _ | timestamp _ | timestampUtc _ =>
    cases h
    decide
  | _ => cases h

theorem literalExpr_of_moment? (d : Dialect) (h : l.moment? = some (keyword, text)) :
    literalExpr d l = .typed keyword text := by
  cases l with
  | date _ | timestamp _ | timestampUtc _ =>
    cases h
    rfl
  | _ => cases h

/-- A date or a timestamp is compiled to its keyword and its text between quotes. -/
theorem compile_moment (a : Adapter) (context : GenerationContext) (h : l.moment? = some (keyword, text)) :
    (a.compile context (.literal l)).result =
      .ok (keyword ++ " " ++ String.ofList (Text.quoted '\'' text)) := by
  have hlexemes : ((Generator.postgres a.folding context).lexemes (.literal l)).result =
      .ok [.word keyword, .blank, .string text] := by
    show Except.ok (literalExpr _ l).lexemes = _
    rw [literalExpr_of_moment? _ h]
    rfl
  rw [Adapter.compile, Generator.result_generate, hlexemes]
  show Except.ok (String.ofList (keyword.toList ++ ([' '] ++ (Text.quoted '\'' text ++ [])))) = _
  rw [List.append_nil, String.ofList_append, String.ofList_append, String.ofList_toList, String.append_assoc]

/-- The keyword is a token in front of those of the quoted text. -/
theorem lex_moment (h : l.moment? = some (keyword, text)) (cs : List Char) :
    Sql.lex (keyword ++ " " ++ String.ofList cs).toList = (Sql.lex cs).map ([.word keyword] ++ ·) := by
  have hchars : (keyword ++ " " ++ String.ofList cs).toList = keyword.toList ++ ' ' :: cs := by simp
  have hblank : Sql.lex (' ' :: cs) = Sql.lex cs := by simpa using Sql.free_blank cs
  rw [hchars, Sql.spells_word (isWord_of_moment? h) _ (Sql.closes_cons rfl cs), hblank]

end Moments

/-- **A date or a timestamp keeps its text exactly if no quote of it looks escaped.** It is compiled to its keyword and
a text between quotes. These read as the keyword and one string constant with the text of the moment if and only if no
quote of the text stands directly behind another quote or a backslash. -/
theorem Adapter.moment_keeps_text_iff (a : Adapter) (context : GenerationContext) {l : Literal}
    {keyword text : String} (h : l.moment? = some (keyword, text)) :
    ∃ quoted, (a.compile context (.literal l)).result = .ok (keyword ++ " " ++ quoted) ∧
      (Sql.lex quoted.toList = some [.string text] ↔ text.toList.IsChain (Text.Unescaped '\'')) ∧
      (Sql.lex (keyword ++ " " ++ quoted).toList = some [.word keyword, .string text] ↔
        text.toList.IsChain (Text.Unescaped '\'')) := by
  have hconstant := Sql.lex_quoted_iff text
  refine ⟨_, compile_moment a context h, ?_, ?_⟩
  · rwa [String.toList_ofList]
  · rw [lex_moment h, ← hconstant]
    constructor
    · intro hlex
      obtain ⟨ts, hts, hresult⟩ := Option.map_eq_some_iff.mp hlex
      obtain ⟨-, rfl⟩ := List.cons.inj hresult
      exact hts
    · intro hlex
      rw [hlex]
      rfl

/-- Quotes at both ends and a backslash at the end of the text do no harm. -/
theorem Adapter.moment_with_quotes_keeps_text :
    let a : Adapter := { properties := { entries := [] }, filter := ⟨.preserveCase, false⟩ }
    let text := "'2024-01-01' \\"
    (Literal.timestampUtc text).moment? = some ("TIMESTAMP", text) ∧
      ∃ quoted, (a.compile {} (.literal (.timestampUtc text))).result = .ok ("TIMESTAMP" ++ " " ++ quoted) ∧
        Sql.lex ("TIMESTAMP" ++ " " ++ quoted).toList = some [.word "TIMESTAMP", .string text] := by
  intro a text
  have hmoment : (Literal.timestampUtc text).moment? = some ("TIMESTAMP", text) := rfl
  obtain ⟨quoted, hsql, -, hlex⟩ := a.moment_keeps_text_iff {} hmoment
  exact ⟨hmoment, quoted, hsql, hlex.mpr (by decide +kernel)⟩

/-- Of two quotes in a row one is lost, and behind a backslash a quote ends the constant, so that the rest of the
text is read as SQL. -/
theorem Adapter.moment_with_escaped_quote_loses_text :
    let a : Adapter := { properties := { entries := [] }, filter := ⟨.convertToUpper, false⟩ }
    (∃ sql, (a.compile {} (.literal (.date "a''b"))).result.toOption = some sql ∧ sql = "DATE 'a''b'" ∧
      Sql.lex sql.toList = some [.word "DATE", .string "a'b"]) ∧
    ∃ sql, (a.compile {} (.literal (.date "\\' OR true --"))).result.toOption = some sql ∧
      sql = "DATE '\\' OR true --'" ∧
      Sql.lex sql.toList = some [.word "DATE", .string "\\", .word "OR", .word "true", .comment] := by
  intro a
  exact ⟨⟨_, by decide +kernel, rfl, by decide +kernel⟩, _, by decide +kernel, rfl, by decide +kernel⟩

end Pushdown
