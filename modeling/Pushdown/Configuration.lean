import Pushdown.Failure.Basic
import Pushdown.Properties
import Pushdown.Suggestion

/-!
# `Configuration` — why options, or what they lead to, are refused

## Contents

* `ConfigError` — the causes.
* `pickHint` — the value that someone may have meant, or all that are allowed.
* `ConfigError.toFailure` — the refusal that a caller gets.
-/

namespace Pushdown

/-- Why options, or a table found under them, are refused. -/
inductive ConfigError
  /-- The way names are mapped is none of those allowed. -/
  | identifierMapping (property value : String) (allowed : List String)
  /-- An error that cannot be passed over is to be passed over. -/
  | ignoredError (property value : String) (allowed : List String)
  | logLevel (property value : String) (allowed : List String)
  /-- The dialect does not know the property. -/
  | unsupportedProperty (property dialect : String) (supported : List String)
  | missingProperty (property : String)
  /-- A table whose name has upper-case letters could not be reached. -/
  | uppercaseTable (table mapping switch : String)
  | unsupportedDialect (dialect : String) (supported : List String)
deriving DecidableEq, Repr

/-- The value that someone may have meant, or all that are allowed. -/
def pickHint (value : String) (allowed : List String) : String :=
  match suggest value allowed with
  | some closest => "Did you mean '" ++ closest ++ "'?"
  | none => "Pick one of: " ++ String.intercalate ", " allowed

namespace ConfigError

/-- The code of a refusal. -/
def code : ConfigError → Code
  | .identifierMapping .. => .invalidIdentifierMapping
  | .ignoredError .. => .unknownIgnoredError
  | .logLevel .. => .invalidLogLevel
  | .unsupportedProperty .. => .unsupportedProperty
  | .missingProperty .. => .missingRequiredProperty
  | .uppercaseTable .. => .uppercaseTable
  | .unsupportedDialect .. => .unsupportedDialect

/-- The wording of a refusal. -/
def message : ConfigError → String
  | .identifierMapping property value _ => "Invalid value '" ++ value ++ "' for property " ++ property
  | .ignoredError property value _ =>
    "Unknown error identifier '" ++ value ++ "' in property " ++ property
  | .logLevel property value _ => "Unknown log level '" ++ value ++ "' in property " ++ property
  | .unsupportedProperty property dialect _ =>
    "Property '" ++ property ++ "' is not supported by dialect " ++ dialect
  | .missingProperty property => "Required property " ++ property ++ " is missing"
  | .uppercaseTable table _ _ => "Table '" ++ table ++ "' cannot be used in the virtual schema"
  | .unsupportedDialect dialect _ => "SQL dialect '" ++ dialect ++ "' is not supported"

/-- What a refusal is about. -/
def context : ConfigError → Context
  | .identifierMapping property value allowed => .property property (some value) allowed
  | .ignoredError property value allowed => .property property (some value) allowed
  | .logLevel property value allowed => .property property (some value) allowed
  | .unsupportedProperty property _ supported => .property property none supported
  | .missingProperty property => .property property none []
  | .uppercaseTable table mapping _ => .table table mapping
  | .unsupportedDialect dialect supported => .property Properties.dialectKey (some dialect) supported

/-- What can be done about it. -/
def hint : ConfigError → String
  | .identifierMapping _ value allowed => pickHint value allowed
  | .ignoredError _ value allowed => pickHint value allowed
  | .logLevel _ value allowed => pickHint value allowed
  | .unsupportedProperty property _ supported => pickHint property supported
  | .missingProperty property =>
    "Set " ++ property ++ " to the name of the connection object for the remote database"
  | .uppercaseTable _ _ switch =>
    "Set property " ++ Properties.ignoreKey ++ " to " ++ switch ++ " to enforce schema creation"
  | .unsupportedDialect dialect supported => pickHint dialect supported

/-- The refusal that a caller gets. -/
def toFailure (e : ConfigError) : Failure :=
  { code := e.code, message := e.message, context := some e.context, hint := some e.hint }

end ConfigError

end Pushdown
