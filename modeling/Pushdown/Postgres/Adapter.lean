import Pushdown.LogLevel
import Pushdown.Postgres.Dialect
import Pushdown.Postgres.Discovery
import Pushdown.PropertyFile.Source

/-!
# `Postgres.Adapter` — PostgreSQL as it is configured

An adapter is built once from its options. Building it checks every option in a fixed order, so that an adapter
that exists can be used.

## Contents

* `Adapter` — options, folding and table filter.
* `Adapter.check` — the checks, in order.
* `Adapter.create`, `Adapter.ofFile` — the adapter of options, or of a file of them.
* `Adapter.compile`, `Adapter.readMetadata` — what it is for.
-/

namespace Pushdown

/-- PostgreSQL as it is configured. -/
structure Adapter where
  properties : Properties
  filter : TableFilter

namespace Adapter

/-- The keys that options may have. -/
def supportedKeys : List String := Properties.commonKeys ++ [CaseFolding.property]

/-- The errors that can be passed over. -/
def ignorableErrors : List String := [TableFilter.switch]

/-- Every key is supported; the smallest that is not is named. -/
def checkKeys (p : Properties) : Except ConfigError Unit :=
  match p.keys.find? fun key => !supportedKeys.contains key with
  | some key => .error (.unsupportedProperty key Dialect.postgresName supportedKeys)
  | none => .ok ()

/-- There is a connection. -/
def checkConnection (p : Properties) : Except ConfigError Unit :=
  match p.connection? with
  | some _ => .ok ()
  | none => .error (.missingProperty Properties.connectionKey)

/-- The dialect, if it is given, is this one. -/
def checkDialect (p : Properties) : Except ConfigError Unit :=
  match p.get? Properties.dialectKey with
  | some dialect =>
    if Text.sameIgnoringCase dialect Dialect.postgresName then .ok ()
    else .error (.unsupportedDialect dialect [Dialect.postgresName])
  | none => .ok ()

/-- The log level, if it is given, is known. -/
def checkLogLevel (p : Properties) : Except ConfigError Unit :=
  match p.get? Properties.logLevelKey with
  | some level =>
    match LogLevel.ofName? level with
    | some _ => .ok ()
    | none => .error (.logLevel Properties.logLevelKey level LogLevel.names)
  | none => .ok ()

/-- Every error to pass over can be passed over; the first that cannot is named. -/
def checkIgnored (p : Properties) : Except ConfigError Unit :=
  match p.ignoredErrors.find? fun entry => !ignorableErrors.contains entry with
  | some entry => .error (.ignoredError Properties.ignoreKey entry ignorableErrors)
  | none => .ok ()

/-- The options pass every check. -/
def check (p : Properties) : Except ConfigError Unit := do
  checkKeys p
  checkConnection p
  checkDialect p
  let _ ← CaseFolding.ofProperties p
  checkLogLevel p
  checkIgnored p

/-- The refusal of options under which logging cannot be started. -/
def loggingFailure (e : LogError) : Failure := { code := .invalidLogLevel, message := e.message }

/-- The adapter of options that pass every check. What they ask for is read again once they do. -/
def create (p : Properties) : Traced Failure Adapter := do
  Traced.ofExcept ((check p).mapError ConfigError.toFailure)
  Traced.ofExcept ((startLoggingFor p).mapError loggingFailure)
  let folding ← Traced.ofExcept ((CaseFolding.ofProperties p).mapError ConfigError.toFailure)
  let filter : TableFilter := ⟨folding, p.ignores TableFilter.switch⟩
  Traced.emit (.dialectCreated Dialect.postgresName folding.name filter.ignoresUppercase)
  pure { properties := p, filter }

/-- The adapter of the options in a file and in the environment. -/
def ofFile (path : String) (content : Option String) (environment : List (String × String)) :
    Traced Failure Adapter :=
  match Properties.ofFile path content environment with
  | .ok p => create p
  | .error e =>
    Traced.refuse
      { code := .invalidConfigFile, message := e.message path, context := some (.configFile path) }

/-- The folding of the adapter. -/
def folding (a : Adapter) : CaseFolding := a.filter.folding

/-- The dialect of the adapter. -/
def dialect (a : Adapter) : Dialect := .postgres a.folding

/-- The context of statements for the configured schema. -/
def context (a : Adapter) : GenerationContext :=
  { catalog := a.properties.catalog?, schema := a.properties.schema? }

/-- The SQL text of a query. -/
def compile (a : Adapter) (context : GenerationContext) (node : Node) : Traced Failure String :=
  (Generator.postgres a.folding context).generate node

/-- The table is exposed. -/
def includes (a : Adapter) (table : String) : Traced Failure Bool :=
  (a.filter.includes table).mapError ConfigError.toFailure

/-- The snapshot of a remote catalogue. -/
def readMetadata (a : Adapter) (catalogue : List RemoteTable) : Traced Failure Snapshot :=
  (discover a.filter catalogue).mapError ConfigError.toFailure

/-- What an adapter says of itself. -/
def describe (a : Adapter) : String :=
  "PostgresDialect \x7b case_folding: " ++ a.folding.label ++ ", table_filter: " ++
    a.filter.describe ++ ", .. \x7d"

end Adapter

end Pushdown
