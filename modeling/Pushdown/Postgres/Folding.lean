import Pushdown.Configuration
import Pushdown.Sql.Expr
import Pushdown.Text.Case

/-!
# `Postgres.Folding` — how names cross over between the two engines

PostgreSQL folds names without quotes to lower case, the federation engine to upper case. A folding says how a
remote name is exposed, and how an exposed name is written into SQL.

## Contents

* `CaseFolding` — the two ways.
* `isUnquotedName` — the names that PostgreSQL makes of names without quotes.
* `CaseFolding.foldTable`, `CaseFolding.foldColumn` — the exposed names.
* `CaseFolding.quote` — the name in SQL.
-/

namespace Pushdown

/-- How names cross over. -/
inductive CaseFolding
  | convertToUpper
  | preserveCase
deriving DecidableEq, Repr

/-- A letter that a name without quotes begins with. -/
def isNameStart (c : Char) : Bool := 'a' ≤ c && c ≤ 'z'

/-- A character inside a name without quotes. -/
def isNamePart (c : Char) : Bool := isNameStart c || isDigit c || c = '_'

/-- The name is one that PostgreSQL makes of a name without quotes. -/
def isUnquotedName (name : String) : Bool :=
  match name.toList with
  | [] => false
  | c :: cs => isNameStart c && cs.all isNamePart

namespace CaseFolding

/-- The two ways. -/
def all : List CaseFolding := [.convertToUpper, .preserveCase]

/-- The value of the property that asks for a folding. -/
def name : CaseFolding → String
  | .convertToUpper => "CONVERT_TO_UPPER"
  | .preserveCase => "PRESERVE_ORIGINAL_CASE"

/-- The foldings with their names. -/
def variants : List (String × CaseFolding) := all.map fun f => (f.name, f)

/-- What a folding is called in a description. -/
def label : CaseFolding → String
  | .convertToUpper => "ConvertToUpper"
  | .preserveCase => "PreserveOriginalCase"

/-- Key of the property that asks for a folding. -/
def property : String := "POSTGRESQL_IDENTIFIER_MAPPING"

/-- The folding that a value of the property asks for. -/
def parse (value : String) : Except ConfigError CaseFolding :=
  match variants.lookup value with
  | some f => .ok f
  | none => .error (.identifierMapping property value (all.map name))

/-- The folding that options ask for. -/
def ofProperties (p : Properties) : Except ConfigError CaseFolding :=
  match p.get? property with
  | some value => parse value
  | none => .ok .convertToUpper

/-- The exposed name of a remote table. -/
def foldTable (f : CaseFolding) (name : String) : String :=
  match f with
  | .convertToUpper => if isUnquotedName name then Text.upper name else name
  | .preserveCase => name

/-- The exposed name of a remote column. -/
def foldColumn (f : CaseFolding) (name : String) : String :=
  match f with
  | .convertToUpper => Text.upper name
  | .preserveCase => name

/-- The name in SQL for an exposed name. -/
def quote (f : CaseFolding) (name : String) : Sql.Ident :=
  match f with
  | .convertToUpper => Sql.quotedIdent (Text.lower name)
  | .preserveCase => Sql.quotedIdent name

end CaseFolding

end Pushdown
