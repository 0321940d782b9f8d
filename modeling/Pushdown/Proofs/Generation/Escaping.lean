import Pushdown.Proofs.Outcome
import Pushdown.Proofs.Sql.Reading

/-!
# `Proofs.Generation.Escaping` — texts that are escaped before they are printed

A text that goes between quotes is escaped where the SQL tree is built, and the printer escapes once more what looks
as if it still needed it. Between the two every text has to come through: a quote behind a backslash, quotes in a row,
a backslash at the end. The printer leaves doubled quotes alone, so the remote engine reads one token, ending where the
printed text ends, and finds in it the text of the query.

## Contents

* `Sql.Quoting`, `Sql.Quoting.Prints` — quoted tokens, and characters that are one such token.
* `prints_quotedIdent`, `prints_string`, `prints_escapeString` — what is printed for each kind.
* `printed_separator`, `printed_escape` — the separator of a string aggregation and the escape of a LIKE.
* `Generator.escaped_texts_decode` — all of them.
-/

namespace Pushdown

/-! ## Quoted tokens -/

namespace Sql

/-- How a text stands between quotes. -/
inductive Quoting
  /-- A name. -/
  | name
  /-- A string constant in which a backslash means nothing. -/
  | standard
  /-- A string constant with backslash escapes. -/
  | escape
deriving DecidableEq

namespace Quoting

/-- What a token of this kind begins with. -/
def opening : Quoting → List Char
  | .name => ['"']
  | .standard => ['\'']
  | .escape => ['E', '\'']

/-- The quote that ends a token of this kind. -/
def closing : Quoting → Char
  | .name => '"'
  | .standard | .escape => '\''

/-- The token that carries a text. -/
def token : Quoting → String → Token
  | .name => .name
  | .standard | .escape => .string

/-- The reader behind the quote that ends a token, if no other quote follows. -/
def ended : Quoting → List Char → Scan
  | .name => .nameQuote
  | .standard => .stringQuote
  | .escape => .escapeQuote

/-- The characters are one token of this kind, and it carries the text. What follows is read by itself, unless it is a
quote that would go on with the token. -/
structure Prints (k : Quoting) (cs : List Char) (s : String) : Prop where
  opens : k.opening <+: cs
  whole : lex cs = some [k.token s]
  apart : ∀ c rest, c ≠ k.closing → lex (cs ++ c :: rest) = (lex (c :: rest)).map (k.token s :: ·)

theorem finish_ended (k : Quoting) (read : List Char) :
    (k.ended read).finish = some [k.token (String.ofList read.reverse)] := by
  cases k <;> rfl

theorem step_ended (k : Quoting) (read : List Char) {c : Char} (h : c ≠ k.closing) :
    (k.ended read).step c = Scan.behind [k.token (String.ofList read.reverse)] c := by
  cases k <;> exact if_neg h

/-- It is enough that the reader is brought behind the last quote. -/
theorem prints_of_run {k : Quoting} {cs : List Char} {s : String} (hopens : k.opening <+: cs)
    (h : ∀ rest, lex (cs ++ rest) = Scan.run (k.ended s.toList.reverse) rest) : k.Prints cs s := by
  have htext : String.ofList s.toList.reverse.reverse = s := by simp
  refine ⟨hopens, ?_, ?_⟩
  · rw [← List.append_nil cs, h, Scan.run, finish_ended, htext]
  · intro c rest hc
    rw [h, Scan.run_of_behind (step_ended k _ hc), htext]
    rfl

end Quoting

end Sql

open Sql (Lexeme Quoting Scan lex)

section Tokens

variable (s : String)

/-- A name between double quotes, with every quote of it twice. -/
theorem prints_quotedIdent : Quoting.name.Prints (Sql.quotedIdent s).lexeme.chars s := by
  have hchars : (Sql.quotedIdent s).lexeme.chars = '"' :: Text.double '"' s.toList ++ ['"'] :=
    Sql.quoted_doubled '"' s
  rw [hchars]
  refine Quoting.prints_of_run (List.prefix_append _ _) fun rest => ?_
  rw [lex, List.append_assoc, List.cons_append, Scan.run_within (t := .name []) rfl,
    List.singleton_append, Sql.run_name, List.append_nil]
  rfl

/-- A string constant with every quote of its text twice. -/
theorem prints_doubled : Quoting.standard.Prints ('\'' :: Text.double '\'' s.toList ++ ['\'']) s := by
  refine Quoting.prints_of_run (List.prefix_append _ _) fun rest => ?_
  rw [lex, List.append_assoc, List.cons_append, Scan.run_within (t := .string []) rfl,
    List.singleton_append, Sql.run_string, List.append_nil]
  rfl

/-- Doubled quotes come through the printer. -/
theorem prints_string : Quoting.standard.Prints (Lexeme.string (Text.doubled '\'' s)).chars s := by
  rw [Lexeme.chars, Sql.quoted_doubled]
  exact prints_doubled s

theorem prints_plainString : Quoting.standard.Prints (Lexeme.plainString (Text.doubled '\'' s)).chars s := by
  rw [Lexeme.chars, Text.doubled, String.toList_ofList]
  exact prints_doubled s

/-- A string with backslash escapes, with every backslash and every quote of it twice. -/
theorem prints_escapeString : Quoting.escape.Prints (Lexeme.escapeString (escapeBody s)).chars s := by
  have hbody : (escapeBody s).toList = Text.double '\'' (Text.double '\\' s.toList) := by
    simp [escapeBody, Text.doubled]
  rw [Lexeme.chars, hbody]
  refine Quoting.prints_of_run (List.prefix_append _ _) fun rest => ?_
  rw [lex, List.append_assoc, List.cons_append, List.cons_append, Scan.run_within (t := .word ['E']) rfl,
    Scan.run_within (t := .escape []) rfl, List.singleton_append, Sql.run_escape, List.append_nil]
  rfl

end Tokens

/-! ## Texts inside other expressions -/

/-- A separator is written in front of the bracket that ends a string aggregation. -/
theorem allChars_groupConcat (e : Sql.Expr) (distinct : Bool) (keys : List Sql.SortKey) (body : String) :
    ∃ before, Lexeme.allChars (Sql.Expr.groupConcat e distinct keys none).lexemes = before ++ [')'] ∧
      Lexeme.allChars (Sql.Expr.groupConcat e distinct keys (some body)).lexemes =
        before ++ " SEPARATOR ".toList ++ (Lexeme.string body).chars ++ [')'] := by
  let inside := Sql.distinctMark distinct ++ e.lexemes ++
    if keys.isEmpty then []
    else Sql.following (Sql.clause ["ORDER", "BY"] (Sql.separated Sql.comma (Sql.sortKeysLexemes keys)))
  have hbracket : (Lexeme.symbol ")").chars = [')'] := rfl
  have hkeyword : Lexeme.allChars (Sql.following (Sql.clause ["SEPARATOR"] [.string body])) =
      " SEPARATOR ".toList ++ (Lexeme.string body).chars := by
    simp only [Sql.following, Sql.clause, Sql.words, Sql.separated, List.map_cons, List.map_nil, Sql.allChars_cons,
      Sql.allChars_append, Sql.allChars_nil, List.append_nil]
    rfl
  refine ⟨Lexeme.allChars (.word "GROUP_CONCAT" :: .symbol "(" :: inside), ?_, ?_⟩
  · rw [Sql.Expr.lexemes]
    simp [Sql.parenthesised, inside, hbracket]
  · rw [Sql.Expr.lexemes]
    simp only [Sql.parenthesised, Sql.allChars_cons, Sql.allChars_append, hkeyword, hbracket, inside]
    simp

/-- An escape is written behind a LIKE. -/
theorem allChars_like (value pattern : Sql.Expr) (body : String) :
    Lexeme.allChars (Sql.Expr.like value pattern (some body)).lexemes =
      Lexeme.allChars (Sql.Expr.like value pattern none).lexemes ++ " ESCAPE ".toList ++
        (Lexeme.plainString body).chars := by
  have hkeyword : Lexeme.allChars (Sql.spaced "ESCAPE") = " ESCAPE ".toList := rfl
  rw [Sql.Expr.lexemes, Sql.Expr.lexemes]
  simp only [Sql.allChars_append, Sql.allChars_cons, hkeyword]
  simp

/-- **Every text that is escaped beforehand is read as it was.** Whatever characters a text has, the quoted name printed
for it is one name, the standard constant, the separator of a string aggregation and the escape of a LIKE are one
standard string constant each, and PostgreSQL's constant is one constant with backslash escapes. Each carries the text,
and ends where its print ends. -/
theorem Generator.escaped_texts_decode (s : String) :
    Quoting.name.Prints (Sql.quotedIdent s).lexeme.chars s ∧
    Quoting.standard.Prints (Lexeme.allChars (Dialect.ansi.stringConstant s).lexemes) s ∧
    (∀ folding, Quoting.escape.Prints
      (Lexeme.allChars ((Dialect.postgres folding).stringConstant s).lexemes) s) ∧
    (∀ (g : Generator) argument distinct ordering e keys, g.projection.concatenation = .groupConcat →
      (g.expr argument).result = .ok e → (g.optionalSortKeys ordering).result = .ok keys →
      ∃ call before printed, (g.expr (.groupConcat argument distinct ordering (some s))).result = .ok call ∧
        Lexeme.allChars (Sql.Expr.groupConcat e distinct keys none).lexemes = before ++ [')'] ∧
        Lexeme.allChars call.lexemes = before ++ " SEPARATOR ".toList ++ printed ++ [')'] ∧
        Quoting.standard.Prints printed s) ∧
    ∀ (g : Generator) value pattern v p, (g.expr value).result = .ok v → (g.expr pattern).result = .ok p →
      ∃ like printed,
        (g.expr (.predicate (.like value pattern (some (.literal (.string s)))))).result = .ok like ∧
        Lexeme.allChars like.lexemes =
          Lexeme.allChars (Sql.Expr.like v p none).lexemes ++ " ESCAPE ".toList ++ printed ∧
        Quoting.standard.Prints printed s := by
  refine ⟨prints_quotedIdent s, ?_, ?_, ?_, ?_⟩
  · show Quoting.standard.Prints ((Lexeme.string (Text.doubled '\'' s)).chars ++ []) s
    rw [List.append_nil]
    exact prints_string s
  · intro folding
    show Quoting.escape.Prints ((Lexeme.escapeString (escapeBody s)).chars ++ []) s
    rw [List.append_nil]
    exact prints_escapeString s
  · intro g argument distinct ordering e keys hway he hkeys
    obtain ⟨before, hnone, hsome⟩ := allChars_groupConcat e distinct keys (Text.doubled '\'' s)
    refine ⟨_, before, _, ?_, hnone, hsome, prints_string s⟩
    rw [Generator.expr]
    simp [hway, he, hkeys]
  · intro g value pattern v p hv hp
    refine ⟨_, _, ?_, allChars_like v p (Text.doubled '\'' s), prints_plainString s⟩
    simp [Generator.expr, Generator.predicate, hv, hp, escapeText]

/-- Quotes behind backslashes, quotes in a row and a backslash at the end. -/
theorem Generator.escaped_backslashes_and_quotes :
    let s := "\\'\\\\'''\"\\\"\\"
    let g := Generator.standard .ansi {}
    g.projection.concatenation = .groupConcat ∧
    Lexeme.allChars (Dialect.ansi.stringConstant s).lexemes = "'\\''\\\\''''''\"\\\"\\'".toList ∧
    lex (Sql.quotedIdent s).lexeme.chars = some [.name s] ∧
    lex (Lexeme.allChars (Dialect.ansi.stringConstant s).lexemes) = some [.string s] ∧
    lex (Lexeme.allChars ((Dialect.postgres .preserveCase).stringConstant s).lexemes) = some [.string s] ∧
    (∃ call printed, (g.expr (.groupConcat (.literal .null) true none (some s))).result = .ok call ∧
      Lexeme.allChars call.lexemes =
        "GROUP_CONCAT(DISTINCT NULL".toList ++ " SEPARATOR ".toList ++ printed ++ [')'] ∧
      lex printed = some [.string s]) ∧
    ∃ like printed, (g.expr (.predicate (.like (.literal .null) (.literal .null)
        (some (.literal (.string s)))))).result = .ok like ∧
      Lexeme.allChars like.lexemes = "NULL LIKE NULL".toList ++ " ESCAPE ".toList ++ printed ∧
      lex printed = some [.string s] := by
  intro s g
  obtain ⟨hname, hstandard, hescape, hseparator, hlike⟩ := escaped_texts_decode s
  obtain ⟨call, before, printed, hcall, hbefore, hchars, hprinted⟩ :=
    hseparator g (.literal .null) true none .null [] rfl rfl rfl
  obtain ⟨like, printed', hresult, hchars', hprinted'⟩ :=
    hlike g (.literal .null) (.literal .null) .null .null rfl rfl
  have hcut : before = "GROUP_CONCAT(DISTINCT NULL".toList :=
    (List.append_cancel_right (hbefore.symm.trans (by decide)))
  refine ⟨rfl, by decide, hname.whole, hstandard.whole, (hescape .preserveCase).whole,
    ⟨call, printed, hcall, ?_, hprinted.whole⟩, like, printed', hresult, hchars', hprinted'.whole⟩
  rw [hchars, hcut]

end Pushdown
