import Pushdown.Number.Digits
import Pushdown.Text.Cut

/-!
# `Failure.Code` — stable numbers for everything that can be refused

A code is written as a prefix and its number. The thousands digit is its category: whether one statement, the
whole configuration, or the adapter itself is at fault.

## Contents

* `Code`, `Code.number`, `Code.text` — the codes and how they are written.
* `Category` — what is at fault.
* `Code.parse` — the code that a text names.
-/

namespace Pushdown

/-- What was refused. -/
inductive Code
  | columnTypeUnresolved
  | malformedFunctionCall
  | unsupportedNode
  | invalidIdentifierMapping
  | unknownIgnoredError
  | unsupportedProperty
  | missingRequiredProperty
  | uppercaseTable
  | unsupportedDialect
  | invalidConfigFile
  | invalidLogLevel
  | serializationFailed
deriving DecidableEq, Repr

/-- What is at fault: one statement, the configuration, or the adapter itself. -/
inductive Category
  | generation
  | config
  | internal
deriving DecidableEq, Repr

namespace Category

/-- The name of a category. -/
def name : Category → String
  | .generation => "Generation"
  | .config => "Config"
  | .internal => "Internal"

/-- The categories with their names. -/
def variants : List (String × Category) :=
  [.generation, .config, .internal].map fun c => (c.name, c)

end Category

/-- Why a text or a number is no code. -/
inductive CodeError
  /-- The text has another form. -/
  | invalidFormat
  /-- The text has the right form, but its number is not in use. -/
  | unknownCode
  /-- The number is not in use. -/
  | unknownNumber (n : Nat)
deriving DecidableEq, Repr

namespace CodeError

/-- The wording of the refusal. -/
def message : CodeError → String
  | .invalidFormat => "Invalid format"
  | .unknownCode => "Unknown code"
  | .unknownNumber n => "Unknown error code: " ++ intText n

end CodeError

namespace Code

/-- All codes, by number. -/
def all : List Code :=
  [.columnTypeUnresolved, .malformedFunctionCall, .unsupportedNode, .invalidIdentifierMapping,
   .unknownIgnoredError, .unsupportedProperty, .missingRequiredProperty, .uppercaseTable,
   .unsupportedDialect, .invalidConfigFile, .invalidLogLevel, .serializationFailed]

/-- The number of a code. -/
def number : Code → Nat
  | .columnTypeUnresolved => 2001
  | .malformedFunctionCall => 2002
  | .unsupportedNode => 2003
  | .invalidIdentifierMapping => 3001
  | .unknownIgnoredError => 3002
  | .unsupportedProperty => 3003
  | .missingRequiredProperty => 3004
  | .uppercaseTable => 3005
  | .unsupportedDialect => 3006
  | .invalidConfigFile => 3007
  | .invalidLogLevel => 3008
  | .serializationFailed => 5002

/-- The code with a number. -/
def ofNumber? (n : Nat) : Option Code := all.find? (·.number == n)

/-- The code with a number, or why there is none. -/
def ofNumber (n : Nat) : Except CodeError Code :=
  match ofNumber? n with
  | some c => .ok c
  | none => .error (.unknownNumber n)

/-- What every written code begins with. -/
def heading : List Char := "PGVS-".toList

/-- A code as it is written. -/
def text (c : Code) : String := String.ofList (heading ++ Nat.toDigits 10 c.number)

/-- What is at fault. -/
def category (c : Code) : Category :=
  match c.number / 1000 with
  | 2 => .generation
  | 3 => .config
  | _ => .internal

end Code

/-- An unsigned number of 16 bits: digits, with at most one plus sign in front. -/
def word16? (cs : List Char) : Option Nat :=
  let digits := match cs with
    | '+' :: rest => rest
    | _ => cs
  (decimal? digits).filter (· < 65536)

namespace Code

/-- The code that a text names. -/
def parse (s : String) : Except CodeError Code :=
  match (Text.behind? heading s.toList).bind word16? with
  | none => .error .invalidFormat
  | some n =>
    match ofNumber? n with
    | some c => .ok c
    | none => .error .unknownCode

end Code

end Pushdown
