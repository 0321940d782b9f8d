import Pushdown.Number.Digits

/-!
# `Proofs.Sql.Token` — SQL text as PostgreSQL divides it into tokens

The generator prints SQL; what that text means begins with the tokens that the remote engine finds in it. This is
the part of PostgreSQL's lexical rules that texts without exotic constants need, with standard strings, where a
backslash means nothing special outside `E'…'`. It reads one character at a time, so that it can be followed along
a text piece by piece.

What would need further rules is refused and never guessed: dollar quotes, parameters, bit strings, Unicode
escapes, numeric escapes inside `E'…'`, numbers that run into a word, and a string constant that begins a line,
since it might continue the one before it. A comment is a token of its own, so that its absence can be stated.

## Contents

* `Token` — words, numbers, operators, marks, names, strings and comments.
* `Scan`, `Scan.step`, `Scan.finish` — the reader: what it is in the middle of, and what a character does to that.
* `lex` — the tokens of a text.
-/

namespace Pushdown.Sql

/-- A token of SQL text. Names and strings are held as they read, without quotes and escapes. -/
inductive Token
  /-- A keyword or a name without quotes. -/
  | word (text : String)
  | number (text : String)
  | operator (text : String)
  /-- A bracket, a comma, a dot, a colon or a semicolon. -/
  | mark (c : Char)
  /-- A name between double quotes. -/
  | name (text : String)
  /-- A string constant of either kind. -/
  | string (text : String)
  | comment
deriving DecidableEq, Repr

/-! ## Characters -/

/-- A character that a word begins with. -/
def isWordStart (c : Char) : Bool := c.isAlpha || c = '_' || 0x80 ≤ c.toNat

/-- A character inside a word. -/
def isWordPart (c : Char) : Bool := isWordStart c || isDigit c || c = '$'

/-- A character that separates tokens on one line. -/
def isSpace (c : Char) : Bool := c = ' ' || c = '\t' || c = '\x0b' || c = '\x0c'

/-- A character that ends a line. -/
def isLineEnd (c : Char) : Bool := c = '\n' || c = '\r'

/-- Characters that let an operator end with a sign. -/
def markedOperators : List Char := "~!@#%^&|`?".toList

/-- Characters of operators. -/
def operatorChars : List Char := "+-*/<>=".toList ++ markedOperators

/-- Characters that are tokens by themselves. -/
def markChars : List Char := "(),;[]:".toList

/-- What a character behind a backslash stands for in a string with escapes. -/
def unescape (c : Char) : Option Char :=
  if c = 'b' then some '\x08'
  else if c = 'f' then some '\x0c'
  else if c = 'n' then some '\n'
  else if c = 'r' then some '\r'
  else if c = 't' then some '\t'
  else if isDigit c || c = 'x' || c = 'u' || c = 'U' then none
  else some c

/-! ## The reader -/

/-- Where in a number the reader is. -/
inductive NumberPart
  | whole
  | fraction
  /-- Right behind the letter of an exponent. -/
  | letter
  /-- Right behind the sign of an exponent. -/
  | sign
  | exponent
deriving DecidableEq

/-- What the reader is in the middle of. Characters that were read stand in reverse. -/
inductive Scan
  | gap
  /-- In a gap with the end of a line. -/
  | line
  | word (read : List Char)
  | number (part : NumberPart) (read : List Char)
  /-- Behind a dot that may begin a number. -/
  | point
  | operator (read : List Char)
  | name (read : List Char)
  /-- Behind a quote that ends a name unless another follows. -/
  | nameQuote (read : List Char)
  | string (read : List Char)
  | stringQuote (read : List Char)
  /-- In a string with backslash escapes. -/
  | escape (read : List Char)
  | escapeBackslash (read : List Char)
  | escapeQuote (read : List Char)
  | lineComment
  /-- In a comment that holds comments; the last character decides what the next one does. -/
  | blockComment (depth : Nat) (last : Char)
deriving DecidableEq

/-- A sign that may not end an operator. -/
def isSign (c : Char) : Bool := c = '+' || c = '-'

/-- The tokens of a run of operator characters in reverse: signs at its end are operators of their own, unless the
operator holds a character that lets it end with them. -/
def operatorTokens (read : List Char) : List Token :=
  if read.any (markedOperators.contains ·) then [.operator (String.ofList read.reverse)]
  else
    let body := read.dropWhile isSign
    (if body.isEmpty then [] else [.operator (String.ofList body.reverse)]) ++
      (read.takeWhile isSign).reverse.map fun c => .operator (String.ofList [c])

namespace Scan

/-- What a character begins in a gap. -/
def begins (c : Char) : Option (List Token × Scan) :=
  if isSpace c then some ([], .gap)
  else if isLineEnd c then some ([], .line)
  else if isWordStart c then some ([], .word [c])
  else if isDigit c then some ([], .number .whole [c])
  else if c = '.' then some ([], .point)
  else if operatorChars.contains c then some ([], .operator [c])
  else if markChars.contains c then some ([.mark c], .gap)
  else if c = '"' then some ([], .name [])
  else if c = '\'' then some ([], .string [])
  else none

/-- A character that ends tokens begins something else. -/
def behind (ts : List Token) (c : Char) : Option (List Token × Scan) :=
  (begins c).map fun (us, s) => (ts ++ us, s)

/-- A string constant directly behind a word. -/
def stringBehind (read : List Char) : Option (List Token × Scan) :=
  if read = ['E'] || read = ['e'] then some ([], .escape [])
  else if ["B", "b", "X", "x", "N", "n"].contains (String.ofList read) then none
  else some ([.word (String.ofList read.reverse)], .string [])

/-- A character in the middle of a number, or behind it. -/
def stepNumber (part : NumberPart) (read : List Char) (c : Char) : Option (List Token × Scan) :=
  let ended := if isWordPart c || c = '.' then none
    else behind [.number (String.ofList read.reverse)] c
  let exponent := c = 'e' || c = 'E'
  match part with
  | .whole =>
    if isDigit c then some ([], .number .whole (c :: read))
    else if c = '.' then some ([], .number .fraction (c :: read))
    else if exponent then some ([], .number .letter (c :: read))
    else ended
  | .fraction =>
    if isDigit c then some ([], .number .fraction (c :: read))
    else if exponent then some ([], .number .letter (c :: read))
    else ended
  | .letter =>
    if isDigit c then some ([], .number .exponent (c :: read))
    else if isSign c then some ([], .number .sign (c :: read))
    else none
  | .sign => if isDigit c then some ([], .number .exponent (c :: read)) else none
  | .exponent => if isDigit c then some ([], .number .exponent (c :: read)) else ended

/-- A character in the middle of an operator, or behind it. A comment may begin inside. -/
def stepOperator (read : List Char) (c : Char) : Option (List Token × Scan) :=
  if operatorChars.contains c then
    match read with
    | last :: before =>
      if last = '-' && c = '-' then some (operatorTokens before ++ [.comment], .lineComment)
      else if last = '/' && c = '*' then some (operatorTokens before ++ [.comment], .blockComment 0 ' ')
      else some ([], .operator (c :: read))
    | [] => some ([], .operator [c])
  else behind (operatorTokens read) c

/-- The tokens that a character completes, and what the reader is in the middle of behind it. -/
def step : Scan → Char → Option (List Token × Scan)
  | .gap, c => begins c
  | .line, c => if c = '\'' then none else if isSpace c then some ([], .line) else begins c
  | .word read, c =>
    if isWordPart c then some ([], .word (c :: read))
    else if c = '\'' then stringBehind read
    else if c = '&' && (read = ['U'] || read = ['u']) then none
    else behind [.word (String.ofList read.reverse)] c
  | .number part read, c => stepNumber part read c
  | .point, c =>
    if isDigit c then some ([], .number .fraction [c, '.'])
    else if c = '.' then none
    else behind [.mark '.'] c
  | .operator read, c => stepOperator read c
  | .name read, c => some ([], if c = '"' then .nameQuote read else .name (c :: read))
  | .nameQuote read, c =>
    if c = '"' then some ([], .name (c :: read)) else behind [.name (String.ofList read.reverse)] c
  | .string read, c => some ([], if c = '\'' then .stringQuote read else .string (c :: read))
  | .stringQuote read, c =>
    if c = '\'' then some ([], .string (c :: read)) else behind [.string (String.ofList read.reverse)] c
  | .escape read, c =>
    some ([], if c = '\\' then .escapeBackslash read
      else if c = '\'' then .escapeQuote read else .escape (c :: read))
  | .escapeBackslash read, c => (unescape c).map fun d => ([], .escape (d :: read))
  | .escapeQuote read, c =>
    if c = '\'' then some ([], .escape (c :: read)) else behind [.string (String.ofList read.reverse)] c
  | .lineComment, c => some ([], if isLineEnd c then .line else .lineComment)
  | .blockComment depth last, c =>
    if last = '*' && c = '/' then
      match depth with
      | 0 => some ([], .gap)
      | depth + 1 => some ([], .blockComment depth ' ')
    else if last = '/' && c = '*' then some ([], .blockComment (depth + 1) ' ')
    else some ([], .blockComment depth c)

/-- The tokens that the end of the text completes. -/
def finish : Scan → Option (List Token)
  | .gap | .line | .lineComment => some []
  | .word read => some [.word (String.ofList read.reverse)]
  | .number part read =>
    if part = .letter || part = .sign then none else some [.number (String.ofList read.reverse)]
  | .point => some [.mark '.']
  | .operator read => some (operatorTokens read)
  | .nameQuote read => some [.name (String.ofList read.reverse)]
  | .stringQuote read | .escapeQuote read => some [.string (String.ofList read.reverse)]
  | .name _ | .string _ | .escape _ | .escapeBackslash _ | .blockComment _ _ => none

/-- The tokens of the rest of a text. -/
def run : Scan → List Char → Option (List Token)
  | s, [] => s.finish
  | s, c :: cs =>
    match s.step c with
    | some (ts, s') => (run s' cs).map (ts ++ ·)
    | none => none

end Scan

/-- The tokens of a text. -/
def lex (cs : List Char) : Option (List Token) := Scan.run .gap cs

example : lex "E'a\\'b''' - -5.e3--x".toList =
    some [.string "a'b'", .operator "-", .operator "-", .number "5.e3", .comment] := by decide

end Pushdown.Sql
