import Pushdown.Number.Digits

/-!
# `Event` — what a computation reports beside its result

Nothing is written while a query is generated or a catalogue is read: a computation returns the events that
belong to it, in order, whether it succeeds or not.

## Contents

* `Event` — the events, with their level, target, message and fields.
* `Traced` — a result together with the events before it.
-/

namespace Pushdown

/-- How much an event matters. -/
inductive Level
  | trace
  | debug
  | info
  | warn
deriving DecidableEq, Repr

namespace Level

/-- The name of a level. -/
def name : Level → String
  | .trace => "TRACE"
  | .debug => "DEBUG"
  | .info => "INFO"
  | .warn => "WARN"

end Level

/-- Something worth reporting. -/
inductive Event
  /-- A dialect was built. -/
  | dialectCreated (dialect mapping : String) (ignoresUppercase : Bool)
  /-- Generation of a node begins. -/
  | generating (dialect node : String)
  /-- Generation succeeded. -/
  | generated (sql : String)
  /-- Generation was refused. -/
  | generationFailed (error : String)
  /-- A function was written by a rule of the dialect. -/
  | ruleApplied (function : String)
  /-- `*` was replaced by the columns of the tables. -/
  | wildcardExpanded (tables : Nat)
  /-- The ordering of a concatenation was left out. -/
  | orderingDropped
  /-- A table is left out because of its name. -/
  | tableIgnored (table : String)
  /-- A type was mapped by the dialect itself. -/
  | typeMapped (typeName : String) (typeCode : Int) (mapped : String)
  /-- A catalogue was read. -/
  | metadataRead (remote exposed : Nat)
deriving DecidableEq, Repr

namespace Event

/-- How much the event matters. -/
def level : Event → Level
  | .dialectCreated .. => .debug
  | .generating .. => .debug
  | .generated .. => .debug
  | .generationFailed .. => .warn
  | .ruleApplied .. => .trace
  | .wildcardExpanded .. => .trace
  | .orderingDropped => .debug
  | .tableIgnored .. => .info
  | .typeMapped .. => .trace
  | .metadataRead .. => .debug

/-- The part of the program that reports it. -/
def target : Event → String
  | .dialectCreated .. => "dialect"
  | .generating .. | .generated .. | .generationFailed .. | .ruleApplied .. | .wildcardExpanded ..
  | .orderingDropped => "sql_generator"
  | .tableIgnored .. | .typeMapped .. | .metadataRead .. => "metadata"

/-- Its fixed words. -/
def message : Event → String
  | .dialectCreated .. => "Created dialect"
  | .generating .. => "Generating SQL"
  | .generated .. => "Generated SQL"
  | .generationFailed .. => "SQL generation failed"
  | .ruleApplied .. => "Applied dialect function rule"
  | .wildcardExpanded .. => "Expanding wildcard to cast remote types"
  | .orderingDropped => "Dropping ORDER BY inside GROUP_CONCAT"
  | .tableIgnored .. => "Ignoring table with uppercase characters in its name"
  | .typeMapped .. => "Mapped PostgreSQL specific type"
  | .metadataRead .. => "Read remote metadata"

/-- Its data, as text. -/
def fields : Event → List (String × String)
  | .dialectCreated dialect mapping ignores =>
    [("dialect", dialect), ("identifier_mapping", mapping),
     ("ignore_uppercase_tables", if ignores then "true" else "false")]
  | .generating dialect node => [("dialect", dialect), ("node", node)]
  | .generated sql => [("sql", sql)]
  | .generationFailed error => [("error", error)]
  | .ruleApplied function => [("function", function)]
  | .wildcardExpanded tables => [("tables", intText tables)]
  | .orderingDropped => []
  | .tableIgnored table => [("table", table)]
  | .typeMapped typeName typeCode mapped =>
    [("type_name", typeName), ("type_code", intText typeCode), ("mapped", mapped)]
  | .metadataRead remote exposed =>
    [("remote_tables", intText remote), ("exposed_tables", intText exposed)]

end Event

/-- A result, or a refusal, with the events that came before it. -/
structure Traced (ε α : Type) where
  events : List Event
  result : Except ε α

namespace Traced

variable {ε ε' α β : Type}

/-- Runs `f` on a result, the events of both in order. -/
protected def bind (x : Traced ε α) (f : α → Traced ε β) : Traced ε β :=
  match x.result with
  | .ok a => ⟨x.events ++ (f a).events, (f a).result⟩
  | .error e => ⟨x.events, .error e⟩

instance : Monad (Traced ε) where
  pure a := ⟨[], .ok a⟩
  bind := Traced.bind

/-- Reports an event. -/
def emit (e : Event) : Traced ε Unit := ⟨[e], .ok ()⟩

/-- Refuses. -/
def refuse (e : ε) : Traced ε α := ⟨[], .error e⟩

/-- A result without events. -/
def ofExcept (r : Except ε α) : Traced ε α := ⟨[], r⟩

/-- The same computation with another kind of refusal. -/
def mapError (f : ε → ε') (x : Traced ε α) : Traced ε' α := ⟨x.events, x.result.mapError f⟩

@[simp] theorem events_pure (a : α) : (pure a : Traced ε α).events = [] := rfl

@[simp] theorem result_pure (a : α) : (pure a : Traced ε α).result = .ok a := rfl

@[simp] theorem events_emit (e : Event) : (emit e : Traced ε Unit).events = [e] := rfl

@[simp] theorem result_emit (e : Event) : (emit e : Traced ε Unit).result = .ok () := rfl

end Traced

end Pushdown
