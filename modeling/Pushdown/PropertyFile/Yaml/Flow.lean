import Pushdown.PropertyFile.Line
import Pushdown.PropertyFile.Quoted
import Pushdown.PropertyFile.Yaml.Scalar

/-!
# `PropertyFile.Yaml.Flow` — values of YAML on one line

A value on a line is a word, a text between quotes, or a list or a table in brackets. Tags and anchors may
stand in front of it. Inside brackets a word also ends at a comma and at a bracket.

## Contents

* `Value` — a scalar, a list or a table; what it holds is checked when it is made.
* `NodeProperties`, `properties?` — tag and anchor of a value.
* `flowValue?` — a value inside brackets, brackets themselves included.
* `lineValue?` — the value of a line.
-/

namespace Pushdown.Yaml

/-- What a value is. -/
inductive Value
  | scalar (s : Scalar)
  | list
  | table (entries : List (String × Setting))
deriving Repr

namespace Value

/-- A value as a setting. -/
def setting? : Value → Option Setting
  | .scalar s => s.setting?
  | .list | .table _ => some .nested

/-- A value as a key. -/
def key? : Value → Option String
  | .scalar s => s.key?
  | .list | .table _ => none

end Value

/-! ## Quotes -/

/-- What a letter behind a backslash means. -/
def escape? : Char → Option Escape
  | '0' => some (.char '\x00')
  | 'a' => some (.char '\x07')
  | 'b' => some (.char '\x08')
  | 't' => some (.char '\t')
  | '\t' => some (.char '\t')
  | 'n' => some (.char '\n')
  | 'v' => some (.char '\x0b')
  | 'f' => some (.char '\x0c')
  | 'r' => some (.char '\r')
  | 'e' => some (.char '\x1b')
  | ' ' => some (.char ' ')
  | '"' => some (.char '"')
  | '/' => some (.char '/')
  | '\\' => some (.char '\\')
  | 'N' => some (.char '\u0085')
  | '_' => some (.char '\u00a0')
  | 'L' => some (.char '\u2028')
  | 'P' => some (.char '\u2029')
  | 'x' => some (.code 2)
  | 'u' => some (.code 4)
  | 'U' => some (.code 8)
  | _ => none

/-- A text between quotes, and what follows it. -/
def quoted? : List Char → Option (String × List Char)
  | '\'' :: rest => (singleQuoted? true rest).map fun (cs, r) => (String.ofList cs, r)
  | '"' :: rest => (doubleQuoted? escape? rest).map fun (cs, r) => (String.ofList cs, r)
  | _ => none

/-- A quote. -/
def isQuote (c : Char) : Bool := c = '\'' || c = '"'

/-! ## Words -/

/-- Characters that separate values inside brackets. -/
def isFlowIndicator (c : Char) : Bool := ",[]\x7b\x7d".toList.contains c

/-- Characters that no word begins with. -/
def isIndicator (c : Char) : Bool := "&*!|>%@`'\"#,[]\x7b\x7d".toList.contains c

/-- A word may begin here: a dash, a question mark and a colon do so only if no blank follows. -/
def beginsWord : List Char → Bool
  | [] => false
  | c :: rest =>
    if c = '-' || c = '?' || c = ':' then !(rest.head?.map isSpace).getD true else !isIndicator c

/-- A word without the comment behind it. -/
def uncommented : List Char → List Char
  | [] => []
  | [c] => [c]
  | c :: d :: rest => if isSpace c && d = '#' then [] else c :: uncommented (d :: rest)

/-- Cuts at the first colon that a blank or the end of the line follows. -/
def cutColon? : List Char → Option (List Char × List Char)
  | [] => none
  | [':'] => some ([], [])
  | c :: d :: rest =>
    if c = ':' && isSpace d then some ([], d :: rest)
    else (cutColon? (d :: rest)).map fun (key, value) => (c :: key, value)
  | [_] => none

/-- A word inside brackets, and what follows it. -/
def flowWord : List Char → List Char × List Char
  | [] => ([], [])
  | c :: rest =>
    let ends :=
      isFlowIndicator c ||
      (c = ':' && (rest.head?.map fun d => isSpace d || isFlowIndicator d).getD true) ||
      (isSpace c && rest.head? = some '#')
    if ends then ([], c :: rest)
    else
      let (word, r) := flowWord rest
      (c :: word, r)

/-! ## Tags and anchors -/

/-- Tag and anchor in front of a value. -/
structure NodeProperties where
  tag : Option Tag := none
  anchor : Option String := none
deriving DecidableEq, Repr

/-- The tag that is written behind an exclamation mark. -/
def Tag.ofChars : List Char → Tag
  | '!' :: name => .standard (String.ofList name)
  | _ => .other

/-- Characters of a tag or of an anchor. -/
def isNameChar (c : Char) : Bool := !isSpace c && !isFlowIndicator c

/-- Reads at most one tag and one anchor; the fuel bounds how many are tried. -/
def propertiesFrom? : Nat → NodeProperties → List Char → Option (NodeProperties × List Char)
  | 0, p, cs => some (p, cs)
  | fuel + 1, p, cs =>
    match cs with
    | '!' :: rest =>
      if p.tag.isSome then none
      else
        let tag := Tag.ofChars (rest.takeWhile isNameChar)
        propertiesFrom? fuel { p with tag := some tag }
          ((rest.dropWhile isNameChar).dropWhile isSpace)
    | '&' :: rest =>
      let name := rest.takeWhile isNameChar
      if p.anchor.isSome || name.isEmpty then none
      else
        propertiesFrom? fuel { p with anchor := some (String.ofList name) }
          ((rest.dropWhile isNameChar).dropWhile isSpace)
    | _ => some (p, cs)

/-- Tag and anchor in front of a value, and the value. -/
def properties? (cs : List Char) : Option (NodeProperties × List Char) := propertiesFrom? 3 {} cs

/-! ## Brackets -/

/-- A scalar inside brackets, and what follows it. -/
def flowScalar? (cs : List Char) : Option (Scalar × List Char) := do
  let (p, cs) ← properties? cs
  match quoted? cs with
  | some (s, r) => return (.text s, r)
  | none =>
    let (word, r) := flowWord cs
    if beginsWord cs then return (.ofWord p.tag (String.ofList (trimEnd word)), r)
    else if p.tag.isSome then return (.ofWord p.tag "", cs)
    else none

/-- What follows the colon behind a key inside brackets; behind a quote no blank is needed. -/
def afterColon? (cs : List Char) : Option (List Char) :=
  match cs.dropWhile isSpace with
  | ':' :: rest => some (rest.dropWhile isSpace)
  | _ => none

/-- Inside brackets a value is left out in front of a comma and of a closing bracket. -/
def leavesOut (cs : List Char) : Bool :=
  match cs.head? with
  | none => true
  | some c => c = ',' || c = ']' || c = '\x7d'

mutual

/-- A value inside brackets, and what follows it. -/
def flowValue? : Nat → List Char → Option (Value × List Char)
  | 0, _ => none
  | fuel + 1, cs =>
    match cs with
    | '[' :: rest => (flowItems? fuel (rest.dropWhile isSpace)).map fun r => (.list, r)
    | '\x7b' :: rest => (flowMembers? fuel (rest.dropWhile isSpace)).map fun (es, r) => (.table es, r)
    | _ => (flowScalar? cs).map fun (s, r) => (.scalar s, r)

/-- The value behind a key inside brackets, and what follows it. -/
def flowMember? : Nat → List Char → Option (Setting × List Char)
  | 0, _ => none
  | fuel + 1, cs =>
    if leavesOut cs then some (.nested, cs)
    else do
      let (value, r) ← flowValue? fuel cs
      return (← value.setting?, r)

/-- The items of a list, and what follows its closing bracket. -/
def flowItems? : Nat → List Char → Option (List Char)
  | 0, _ => none
  | fuel + 1, cs =>
    match cs with
    | ']' :: rest => some rest
    | _ => do
      let (value, r) ← flowValue? fuel cs
      let r ← match afterColon? r with
        | some r => do
          let _ ← value.key?
          let (_, r) ← flowMember? fuel r
          pure r
        | none => do
          let _ ← value.setting?
          pure r
      match r.dropWhile isSpace with
      | ',' :: more => flowItems? fuel (more.dropWhile isSpace)
      | ']' :: more => some more
      | _ => none

/-- The entries of a table, and what follows its closing bracket. -/
def flowMembers? : Nat → List Char → Option (List (String × Setting) × List Char)
  | 0, _ => none
  | fuel + 1, cs =>
    match cs with
    | '\x7d' :: rest => some ([], rest)
    | _ => do
      let (value, r) ← flowValue? fuel cs
      let key ← value.key?
      let (setting, r) ← match afterColon? r with
        | some r => flowMember? fuel r
        | none => pure (.nested, r)
      match r.dropWhile isSpace with
      | ',' :: more =>
        let (entries, r) ← flowMembers? fuel (more.dropWhile isSpace)
        return ((key, setting) :: entries, r)
      | '\x7d' :: more => return ([(key, setting)], more)
      | _ => none

end

/-! ## Lines -/

/-- Nothing follows a value but a comment, which a blank separates from it. -/
def isTail (cs : List Char) : Bool := (cs.head?.map isSpace).getD true && isLineEnd cs

/-- The value of a line behind its tag; blanks before it are gone. -/
def lineValue? (tag : Option Tag) (cs : List Char) : Option Value :=
  match cs with
  | [] => some (.scalar (match tag with | some t => .ofTagged "" t | none => .null))
  | c :: _ =>
    if c = '[' || c = '\x7b' then
      match flowValue? (2 * cs.length + 2) cs with
      | some (value, r) => if isTail r then some value else none
      | none => none
    else if isQuote c then
      match quoted? cs with
      | some (s, r) => if isTail r then some (.scalar (.text s)) else none
      | none => none
    else
      let word := trimEnd (uncommented cs)
      if beginsWord cs && (cutColon? word).isNone then some (.scalar (.ofWord tag (String.ofList word)))
      else none

end Pushdown.Yaml
