import Pushdown.Json.Value

/-!
# `Json.Fault` — why a JSON text was refused

## Contents

* `Found` — what stood where something else was expected.
* `Cause` — the reason, and its wording.
* `Fault` — a reason with its place in the text.
-/

namespace Pushdown.Json

/-- A place in a text: the line, from one, and the number of bytes read on it. -/
structure Position where
  line : Nat
  column : Nat
deriving DecidableEq, Repr

/-- What stood where something else was expected. -/
inductive Found
  | null
  | bool (b : Bool)
  | integer (i : Int)
  | float (x : Binary64)
  | string (s : String)
  | sequence
  | map
deriving DecidableEq, Repr

namespace Found

/-- The words a message uses for it. -/
def text : Found → String
  | .null => "null"
  | .bool b => "boolean `" ++ (if b then "true" else "false") ++ "`"
  | .integer i => "integer `" ++ intText i ++ "`"
  | .float x => "floating point `" ++ floatStyle.format x ++ "`"
  | .string s => "string " ++ Text.shown s
  | .sequence => "sequence"
  | .map => "map"

/-- The kind of a value. -/
def ofJson : Json → Found
  | .null => .null
  | .bool b => .bool b
  | .int i => .integer i
  | .float x => .float x
  | .string s => .string s
  | .array _ => .sequence
  | .object _ => .map

end Found

/-- The reason why a text was refused. -/
inductive Cause
  | endInValue
  | endInList
  | endInObject
  | endInString
  | expectedColon
  | expectedListEnd
  | expectedObjectEnd
  | expectedWord
  | expectedValue
  | invalidEscape
  | invalidNumber
  | numberOutOfRange
  | controlCharacter
  | keyNotString
  | loneSurrogate
  | unfinishedEscape
  | trailingComma
  | trailingCharacters
  | tooDeep
  | invalidType (found : Found) (expected : String)
  | invalidValue (found : Found) (expected : String)
  | invalidLength (length : Nat) (expected : String)
  | unknownVariant (name : String) (known : List String)
  | missingField (name : String)
  | duplicateField (name : String)
  | refused (reason : String)
deriving DecidableEq, Repr

/-- A name between backticks. -/
def ticked (name : String) : String := "`" ++ name ++ "`"

/-- The alternatives a message offers. -/
def alternatives : List String → String
  | [] => "there are no variants"
  | [a] => "expected " ++ ticked a
  | [a, b] => "expected " ++ ticked a ++ " or " ++ ticked b
  | names => "expected one of " ++ String.intercalate ", " (names.map ticked)

namespace Cause

/-- The wording of the reason. -/
def message : Cause → String
  | .endInValue => "EOF while parsing a value"
  | .endInList => "EOF while parsing a list"
  | .endInObject => "EOF while parsing an object"
  | .endInString => "EOF while parsing a string"
  | .expectedColon => "expected `:`"
  | .expectedListEnd => "expected `,` or `]`"
  | .expectedObjectEnd => "expected `,` or `\x7d`"
  | .expectedWord => "expected ident"
  | .expectedValue => "expected value"
  | .invalidEscape => "invalid escape"
  | .invalidNumber => "invalid number"
  | .numberOutOfRange => "number out of range"
  | .controlCharacter => "control character (\\u0000-\\u001F) found while parsing a string"
  | .keyNotString => "key must be a string"
  | .loneSurrogate => "lone leading surrogate in hex escape"
  | .unfinishedEscape => "unexpected end of hex escape"
  | .trailingComma => "trailing comma"
  | .trailingCharacters => "trailing characters"
  | .tooDeep => "recursion limit exceeded"
  | .invalidType found expected => "invalid type: " ++ found.text ++ ", expected " ++ expected
  | .invalidValue found expected => "invalid value: " ++ found.text ++ ", expected " ++ expected
  | .invalidLength length expected =>
    "invalid length " ++ intText length ++ ", expected " ++ expected
  | .unknownVariant name known => "unknown variant " ++ ticked name ++ ", " ++ alternatives known
  | .missingField name => "missing field " ++ ticked name
  | .duplicateField name => "duplicate field " ++ ticked name
  | .refused reason => reason

end Cause

/-- A reason, with its place once it is known. -/
structure Fault where
  cause : Cause
  place : Option Position
deriving DecidableEq, Repr

namespace Fault

/-- The fault at `p`, unless it already has a place. -/
def placedAt (f : Fault) (p : Position) : Fault :=
  match f.place with
  | some _ => f
  | none => { f with place := some p }

/-- The full wording, with the place. -/
def message (f : Fault) : String :=
  match f.place with
  | none => f.cause.message
  | some p =>
    f.cause.message ++ " at line " ++ intText p.line ++
      " column " ++ intText p.column

end Fault

end Pushdown.Json
