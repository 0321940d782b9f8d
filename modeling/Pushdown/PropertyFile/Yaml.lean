import Pushdown.PropertyFile.Yaml.Flow

/-!
# `PropertyFile.Yaml` — property files in YAML

A property file is a table: a line for each key, its value behind a colon. A key without a value may be
followed by deeper lines, which hold a table or a list of its own; the items of a list have a dash in front.
A text ends with its line.

## Contents

* `key?` — the key of a line.
* `table?`, `items?`, `node?` — tables, lists and values by their indentation.
* `parse?` — the settings of a file.
-/

namespace Pushdown.Yaml

/-! ## Keys -/

/-- A letter that must not directly follow a tab behind a colon. -/
def isWordChar (c : Char) : Bool := c.isAlphanum || c = '_' || c = '-'

/-- The blanks behind a colon are nothing but tabs, and a word follows them. -/
def isTabbedWord (cs : List Char) : Bool :=
  let blanks := cs.takeWhile isSpace
  !blanks.isEmpty && blanks.all (· = '\t') && ((cs.dropWhile isSpace).head?.map isWordChar).getD false

/-- What stands behind the colon of a key. -/
def behindColon? (cs : List Char) : Option (List Char) :=
  match cs.dropWhile isSpace with
  | ':' :: rest => if (rest.head?.map isSpace).getD true then some rest else none
  | _ => none

/-- The key of a line, and what stands behind its colon. -/
def key? (cs : List Char) : Option (Scalar × List Char) := do
  let (p, cs) ← properties? cs
  match quoted? cs with
  | some (s, r) => return (.text s, ← behindColon? r)
  | none =>
    let (key, rest) ← cutColon? (uncommented cs)
    if key.isEmpty || beginsWord cs then
      return (.ofWord p.tag (String.ofList (trimEnd key)), rest)
    else none

/-- The line begins an item of a list. -/
def isItem : List Char → Bool
  | '-' :: rest => (rest.head?.map isSpace).getD true
  | _ => false

/-! ## Indentation -/

/-- What the anchors stand for. -/
abbrev Anchors := List (String × Setting)

/-- Remembers what an anchor stands for. -/
def Anchors.note (anchors : Anchors) (anchor : Option String) (setting : Setting) : Anchors :=
  match anchor with
  | some name => (name, setting) :: anchors
  | none => anchors

/-- The name behind an asterisk, if the line holds nothing else. -/
def aliasName? : List Char → Option String
  | '*' :: rest =>
    if isTail (rest.dropWhile isNameChar) then some (String.ofList (rest.takeWhile isNameChar)) else none
  | _ => none

mutual

/-- The table whose keys are indented by `indent`, what its anchors stand for, and the lines that follow. -/
def table? : Nat → Nat → Anchors → List Line → Option (List (String × Setting) × Anchors × List Line)
  | 0, _, _, _ => none
  | _ + 1, _, anchors, [] => some ([], anchors, [])
  | fuel + 1, indent, anchors, line :: lines =>
    if line.indent < indent then some ([], anchors, line :: lines)
    else if indent < line.indent || isItem line.content then none
    else do
      let (scalar, rest) ← key? line.content
      let key ← scalar.key?
      if isTabbedWord rest then none
      else
        let (setting, anchors, lines) ← member? fuel indent anchors (rest.dropWhile isSpace) lines
        let (entries, anchors, lines) ← table? fuel indent anchors lines
        return ((key, setting) :: entries, anchors, lines)

/-- The value behind a key or a dash: the rest of its line, or the deeper lines below. -/
def member? : Nat → Nat → Anchors → List Char → List Line → Option (Setting × Anchors × List Line)
  | 0, _, _, _, _ => none
  | fuel + 1, indent, anchors, cs, lines =>
    match aliasName? cs with
    | some name => do return (← anchors.lookup name, anchors, lines)
    | none => do
      let (p, cs) ← properties? cs
      if isLineEnd cs then
        match lines with
        | [] => do
          let setting ← (← lineValue? p.tag []).setting?
          return (setting, anchors.note p.anchor setting, lines)
        | line :: _ =>
          if indent < line.indent then
            let (value, anchors, lines) ← node? fuel line.indent anchors lines
            let setting ← value.setting?
            return (setting, anchors.note p.anchor setting, lines)
          else if line.indent = indent && isItem line.content then
            let (anchors, lines) ← items? fuel indent anchors lines
            return (.nested, anchors.note p.anchor .nested, lines)
          else
            let setting ← (← lineValue? p.tag []).setting?
            return (setting, anchors.note p.anchor setting, lines)
      else
        let setting ← (← lineValue? p.tag cs).setting?
        return (setting, anchors.note p.anchor setting, lines)

/-- Passes over the items of a list whose dashes are indented by `indent`. -/
def items? : Nat → Nat → Anchors → List Line → Option (Anchors × List Line)
  | 0, _, _, _ => none
  | _ + 1, _, anchors, [] => some (anchors, [])
  | fuel + 1, indent, anchors, line :: lines =>
    if line.indent < indent || (line.indent = indent && !isItem line.content) then
      some (anchors, line :: lines)
    else if indent < line.indent then none
    else do
      let rest := line.content.drop 1
      let inner := rest.dropWhile isSpace
      if (key? inner).isSome || isItem inner then
        let deeper := indent + 1 + (rest.takeWhile isSpace).length
        let (_, anchors, lines) ← node? fuel deeper anchors (⟨deeper, inner, false⟩ :: lines)
        items? fuel indent anchors lines
      else
        let (_, anchors, lines) ← item? fuel indent anchors inner lines
        items? fuel indent anchors lines

/-- The item behind a dash. -/
def item? : Nat → Nat → Anchors → List Char → List Line → Option (Setting × Anchors × List Line)
  | 0, _, _, _, _ => none
  | fuel + 1, indent, anchors, cs, lines =>
    match lines with
    | line :: _ =>
      if isLineEnd cs && line.indent = indent then some (.nested, anchors, lines)
      else member? fuel indent anchors cs lines
    | [] => member? fuel indent anchors cs lines

/-- The value that begins with the first line, which is indented by `indent`. -/
def node? : Nat → Nat → Anchors → List Line → Option (Value × Anchors × List Line)
  | 0, _, _, _ => none
  | _ + 1, _, _, [] => none
  | fuel + 1, indent, anchors, line :: lines =>
    if isItem line.content then do
      let (anchors, lines) ← items? fuel indent anchors (line :: lines)
      return (.list, anchors, lines)
    else if (line.content.head?.map fun c => c = '[' || c = '\x7b').getD false then do
      return (← lineValue? none line.content, anchors, lines)
    else if (key? line.content).isSome then do
      let (entries, anchors, lines) ← table? fuel indent anchors (line :: lines)
      return (.table entries, anchors, lines)
    else do
      let (p, cs) ← properties? line.content
      let value ← lineValue? p.tag cs
      return (value, anchors, lines)

end

/-! ## Documents -/

/-- The line is a mark of three equal characters. -/
def isMark (c : Char) (line : Line) : Bool :=
  line.indent = 0 && line.content.take 3 = [c, c, c] && isTail (line.content.drop 3)

/-- The lines of the only document, and whether a mark begins it. -/
def document? (lines : List Line) : Option (Bool × List Line) :=
  let directives := lines.takeWhile fun line => line.indent = 0 && line.content.head? = some '%'
  let rest := lines.drop directives.length
  let (marked, body) := match rest with
    | line :: more => if isMark '-' line then (true, more) else (false, rest)
    | [] => (false, [])
  let (body, behind) := body.span fun line => !isMark '.' line
  if (!directives.isEmpty && !marked) || body.any (isMark '-') || 1 < behind.length then none
  else some (marked, body)

/-- The settings of a file. -/
def parse? (s : String) : Option (List (String × Setting)) := do
  let lines := Line.ofText s
  let (marked, body) ← document? lines
  if body.any (·.tabbed) then none
  else
    match body with
    | [] => if marked then none else some []
    | line :: _ =>
      match node? (4 * (s.length + lines.length) + 8) line.indent [] body with
      | some (.table entries, _, []) => some entries
      | _ => none

end Pushdown.Yaml
