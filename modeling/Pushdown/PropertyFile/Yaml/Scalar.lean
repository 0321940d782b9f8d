import Pushdown.PropertyFile.Setting

/-!
# `PropertyFile.Yaml.Scalar` — what a plain word of YAML stands for

A word without quotes may be nothing, a truth value, a number or a text. A tag in front of it decides that
instead. A double is kept as it was written; as a value it must then also be a decimal number, which the names
for infinity and for what is no number are not.

## Contents

* `Scalar`, `Scalar.ofPlain` — the meaning of a word.
* `Tag`, `Scalar.ofTagged` — the meaning of a word behind a tag.
* `Scalar.setting?`, `Scalar.key?` — a scalar as a value and as a key.
-/

namespace Pushdown.Yaml

/-- What a word stands for. -/
inductive Scalar
  | null
  | bool (b : Bool)
  | int (i : Int)
  /-- A double, as it was written. -/
  | real (written : String)
  | text (s : String)
  /-- A word that its tag does not allow. -/
  | invalid
deriving DecidableEq, Repr

/-- The names of doubles that are not finite. -/
def namedReals : List String :=
  [".inf", ".Inf", ".INF", "+.inf", "+.Inf", "+.INF", "-.inf", "-.Inf", "-.INF", ".nan", ".NaN", ".NAN"]

/-- A double: one of the names, or a decimal number. -/
def isReal (s : String) : Bool :=
  namedReals.contains s || (s.toList.any isDigit && (readDouble? s).isSome)

/-- An integer that begins with the mark of its base or with a plus sign. -/
def markedInt? : List Char → Option Int
  | '0' :: 'x' :: digits => signedIn? 16 digits
  | '0' :: 'o' :: digits => signedIn? 8 digits
  | '+' :: digits => signedDecimal? digits
  | _ => none

/-- An integer of 64 bits. -/
def int? (s : String) : Option Int :=
  match (markedInt? s.toList).filter Setting.isWord with
  | some i => some i
  | none => (signedDecimal? s.toList).filter Setting.isWord

namespace Scalar

/-- What a word without a tag stands for. -/
def ofPlain (s : String) : Scalar :=
  if s = "" || s = "~" || s = "null" then .null
  else if s = "true" then .bool true
  else if s = "false" then .bool false
  else
    match int? s with
    | some i => .int i
    | none => if isReal s then .real s else .text s

end Scalar

/-- A tag. -/
inductive Tag
  /-- One of the standard's own, written with two exclamation marks. -/
  | standard (name : String)
  | other
deriving DecidableEq, Repr

namespace Scalar

/-- What a word behind a tag stands for. -/
def ofTagged (s : String) : Tag → Scalar
  | .standard "bool" => if s = "true" then .bool true else if s = "false" then .bool false else .invalid
  | .standard "int" =>
    match (signedDecimal? s.toList).filter Setting.isWord with
    | some i => .int i
    | none => .invalid
  | .standard "float" => if isReal s then .real s else .invalid
  | .standard "null" => if s = "~" || s = "null" then .null else .invalid
  | _ => .text s

/-- What a word stands for. -/
def ofWord (tag : Option Tag) (s : String) : Scalar :=
  match tag with
  | some t => ofTagged s t
  | none => ofPlain s

/-- A scalar as a value, unless it is a double that is not a decimal number. -/
def setting? : Scalar → Option Setting
  | .null | .invalid => some .nested
  | .bool b => some (.ofBool b)
  | .int i => some (.ofInt i)
  | .real written => (readDouble? written).map .ofDouble
  | .text s => some (.text s)

/-- A scalar as a key, unless it is nothing. -/
def key? : Scalar → Option String
  | .null | .invalid => none
  | .bool b => some (if b then "true" else "false")
  | .int i => some (intText i)
  | .real written => some written
  | .text s => some s

end Scalar

end Pushdown.Yaml
