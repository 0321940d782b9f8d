import Pushdown.PropertyFile.Toml.Value

/-!
# `PropertyFile.Toml` — property files in TOML

A property file is a line for each key, its value behind an equals sign. A header in brackets starts a table,
which makes its key nested, and so does a key of several parts. What was defined once is not defined again:
a table may be named by headers of its parts and be extended by them, but its own header comes once.

## Contents

* `Definition`, `Definitions` — what the keys of a file were defined as.
* `Definitions.value?`, `Definitions.header?`, `Definitions.element?` — the three ways to define one.
* `parse?` — the settings of a file.
-/

namespace Pushdown.Toml

/-! ## Definitions -/

/-- What a key was defined as. -/
inductive Definition
  | value
  /-- A table with a header of its own. -/
  | table
  /-- A table that a key of several parts goes through. -/
  | dotted
  /-- A table that a header goes through. -/
  | implied
  /-- A list of tables. -/
  | tables
deriving DecidableEq, Repr

/-- What the keys of a file were defined as. -/
abbrev Definitions := List (List String × Definition)

/-- The beginnings of a list that are neither empty nor the whole. -/
def properStarts (keys : List String) : List (List String) :=
  (List.range keys.length).filterMap fun n => if n = 0 then none else some (keys.take n)

namespace Definitions

/-- Defines a key, unless one of `refused` was said about it; what else was said stays. -/
def pass? (refused : List Definition) (definition : Definition) (defs : Definitions)
    (keys : List String) : Option Definitions :=
  match List.lookup keys defs with
  | some d => if refused.contains d then none else some defs
  | none => some ((keys, definition) :: defs)

/-- Defines a value by its key inside a table. -/
def value? (defs : Definitions) (table keys : List String) : Option Definitions := do
  let defs ← (properStarts keys).foldlM
    (fun defs start => pass? [.value, .table, .tables] .dotted defs (table ++ start)) defs
  if (List.lookup (table ++ keys) defs).isSome then none
  else return (table ++ keys, .value) :: defs

/-- The tables that a header goes through. -/
def through? (defs : Definitions) (keys : List String) : Option Definitions :=
  (properStarts keys).foldlM (pass? [.value] .implied) defs

/-- Defines a table by its header. -/
def header? (defs : Definitions) (keys : List String) : Option Definitions := do
  let defs ← through? defs keys
  match List.lookup keys defs with
  | none | some .implied => return (keys, .table) :: defs
  | some _ => none

/-- Defines one more table of a list by its header; the keys of the table before it are forgotten. -/
def element? (defs : Definitions) (keys : List String) : Option Definitions := do
  let defs ← through? defs keys
  match List.lookup keys defs with
  | none | some .tables =>
    return (keys, .tables) :: defs.filter fun (k, _) => !(keys.isPrefixOf k && keys.length < k.length)
  | some _ => none

end Definitions

/-! ## Lines -/

/-- The keys of a header with `brackets` brackets on both sides. -/
def headerKeys? (brackets : Nat) (cs : List Char) : Option (List String) := do
  let (keys, rest) ← keys? ((cs.drop brackets).dropWhile isSpace)
  if rest.take brackets = List.replicate brackets ']' && isLineEnd (rest.drop brackets) then return keys
  else none

/-- A setting at the top: a key of several parts nests its first. -/
def topSetting? (keys : List String) (setting : Setting) : Option (String × Setting) :=
  match keys with
  | [] => none
  | [key] => some (key, setting)
  | key :: _ => some (key, .nested)

/-- The settings of lines inside the table `table`. -/
def entries? (defs : Definitions) (table : List String) : List Line → Option (List (String × Setting))
  | [] => some []
  | line :: rest =>
    match line.content with
    | '[' :: '[' :: _ => do
      let keys ← headerKeys? 2 line.content
      let entry ← topSetting? keys .nested
      return (entry.1, .nested) :: (← entries? (← defs.element? keys) keys rest)
    | '[' :: _ => do
      let keys ← headerKeys? 1 line.content
      let entry ← topSetting? keys .nested
      return (entry.1, .nested) :: (← entries? (← defs.header? keys) keys rest)
    | cs => do
      let (keys, value) ← keys? cs
      let setting ← lineValue? ((← behindChar? '=' value).dropWhile isSpace)
      let entry ← topSetting? (table ++ keys) setting
      return entry :: (← entries? (← defs.value? table keys) table rest)

/-- A character that may stand in a file. -/
def isFileChar (c : Char) : Bool :=
  c = '\n' || c = '\t' || c = '\r' || (0x20 ≤ c.toNat && c.toNat ≠ 0x7f)

/-- The settings of a file. -/
def parse? (s : String) : Option (List (String × Setting)) :=
  if s.toList.all isFileChar then entries? [] [] (Line.ofText s) else none

end Pushdown.Toml
