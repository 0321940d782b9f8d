import Pushdown.Properties

/-!
# `LogLevel` — names of log levels

The federation engine names its levels in its own way; each stands for a directive of the log filter.

## Contents

* `LogLevel` — the levels with their names and directives.
* `LogLevel.ofName?` — the level that a text names.
* `LogLevel.defaultDirective` — the directive if no level is given.
* `isFilter` — the directives that the log filter understands.
* `LogError`, `startLogging`, `startLoggingFor` — whether logging can be started.
-/

namespace Pushdown

/-- A log level of the federation engine. -/
inductive LogLevel
  | all
  | finest
  | finer
  | fine
  | config
  | info
  | warning
  | severe
  | off
deriving DecidableEq, Repr

namespace LogLevel

/-- The levels, from the most to the least talkative. -/
def levels : List LogLevel :=
  [.all, .finest, .finer, .fine, .config, .info, .warning, .severe, .off]

/-- The name of a level. -/
def name : LogLevel → String
  | .all => "ALL"
  | .finest => "FINEST"
  | .finer => "FINER"
  | .fine => "FINE"
  | .config => "CONFIG"
  | .info => "INFO"
  | .warning => "WARNING"
  | .severe => "SEVERE"
  | .off => "OFF"

/-- The directive of the log filter that a level stands for. -/
def directive : LogLevel → String
  | .all | .finest => "trace"
  | .finer | .fine => "debug"
  | .config | .info => "info"
  | .warning => "warn"
  | .severe => "error"
  | .off => "off"

/-- The names of all levels. -/
def names : List String := levels.map name

/-- The level that a text names, in any ASCII case and with blanks around it. -/
def ofName? (s : String) : Option LogLevel :=
  levels.find? fun l => l.name == Text.asciiUpper (Text.trim s)

/-- The directive if no level is given. -/
def defaultDirective : String := LogLevel.directive .info

end LogLevel

/-- The text names a level of the log filter, by name or by number; an empty one does so too. -/
def isFilterLevel (s : String) : Bool :=
  ["", "off", "error", "warn", "info", "debug", "trace", "0", "1", "2", "3", "4", "5"].contains
    (Text.asciiLower s)

/-- One piece of a directive: a level, a target, or a target and its level around an equals sign. -/
def isFilterPiece (s : String) : Bool :=
  match Text.split '=' s with
  | [_] => true
  | [_, level] => isFilterLevel level
  | _ => false

/-- The log filter understands the directive: pieces with commas between them. -/
def isFilter (s : String) : Bool := (Text.split ',' s).all isFilterPiece

/-- Why logging cannot be started. -/
inductive LogError
  | invalidDirective (directive : String)
  | unknownLevel (level : String)
deriving DecidableEq, Repr

namespace LogError

/-- The wording of the refusal. -/
def message : LogError → String
  | .invalidDirective directive => "Invalid log directive '" ++ directive ++ "'"
  | .unknownLevel level =>
    "Unknown " ++ Properties.logLevelKey ++ " '" ++ level ++ "'. Pick one of: " ++
      String.intercalate ", " LogLevel.names

end LogError

/-- Logging starts with a directive that the log filter understands. -/
def startLogging (directive : String) : Except LogError Unit :=
  if isFilter directive then .ok () else .error (.invalidDirective directive)

/-- Logging starts with the level that the options ask for. -/
def startLoggingFor (p : Properties) : Except LogError Unit :=
  match p.get? Properties.logLevelKey with
  | none => startLogging LogLevel.defaultDirective
  | some s =>
    match LogLevel.ofName? s with
    | some level => startLogging level.directive
    | none => .error (.unknownLevel s)

end Pushdown
