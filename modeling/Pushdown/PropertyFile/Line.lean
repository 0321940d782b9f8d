import Pushdown.PropertyFile.Setting
import Pushdown.Text.Blank

/-!
# `PropertyFile.Line` — the lines of a property file

## Contents

* `Line` — indentation and content of a line.
* `Line.ofText` — the lines of a text that are neither blank nor a comment.
* `isLineEnd` — nothing but blanks and a comment.
-/

namespace Pushdown

/-- A line that is neither blank nor a comment. -/
structure Line where
  /-- The number of spaces in front of the content. -/
  indent : Nat
  content : List Char
  /-- A tab stands between those spaces and the content. -/
  tabbed : Bool := false
deriving DecidableEq, Repr

/-- A blank inside a line. -/
def isSpace (c : Char) : Bool := c = ' ' || c = '\t' || c = '\r'

/-- Characters without blanks at their end. -/
def trimEnd (cs : List Char) : List Char := (cs.reverse.dropWhile isSpace).reverse

namespace Line

/-- A line, unless it is blank or a comment. -/
def ofChars? (cs : List Char) : Option Line :=
  match trimEnd (cs.dropWhile isSpace) with
  | [] => none
  | c :: rest =>
    if c = '#' then none
    else
      let indent := (cs.takeWhile (· = ' ')).length
      some ⟨indent, c :: rest, indent < (cs.takeWhile isSpace).length⟩

/-- The lines of a text that are neither blank nor a comment. -/
def ofText (s : String) : List Line := (Text.splitChars '\n' s.toList).filterMap ofChars?

end Line

/-- Nothing but blanks and a comment. -/
def isLineEnd (cs : List Char) : Bool :=
  match cs.dropWhile isSpace with
  | [] => true
  | c :: _ => c = '#'

end Pushdown
