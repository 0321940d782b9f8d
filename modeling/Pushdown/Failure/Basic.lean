import Pushdown.Failure.Code
import Pushdown.Json.Decode

/-!
# `Failure.Basic` — a refusal with everything a caller needs

## Contents

* `Context` — what the refusal is about, as data.
* `Failure` — code, message, context and hint.
* `Failure.display` — the line that is shown to a person.
* `Failure.toJson`, `Failure.reader` — the form that is exchanged.
-/

namespace Pushdown

/-- What a refusal is about. -/
inductive Context
  /-- A property, the value it had, and the values it may have. -/
  | property (property : String) (value : Option String) (allowed : List String)
  /-- A remote table under an identifier mapping. -/
  | table (table : String) (mapping : String)
  /-- A node that a dialect could not generate. -/
  | generation (dialect : String) (node : String) (reason : String)
  /-- A file of properties. -/
  | configFile (path : String)
deriving DecidableEq, Repr

/-- A refusal. -/
structure Failure where
  code : Code
  message : String
  context : Option Context := none
  hint : Option String := none
deriving DecidableEq, Repr

namespace Context

/-- The form that is exchanged. -/
def toJson : Context → Json
  | .property p value allowed =>
    .object [("type", .string "property"), ("property", .string p), ("value", .ofOption value),
      ("allowed_values", .ofTexts allowed)]
  | .table t mapping =>
    .object [("type", .string "table"), ("table", .string t), ("identifier_mapping", .string mapping)]
  | .generation dialect node reason =>
    .object [("type", .string "generation"), ("dialect", .string dialect), ("node", .string node),
      ("reason", .string reason)]
  | .configFile path => .object [("type", .string "config_file"), ("file_path", .string path)]

open Json (Shape TaggedField Decode.text Decode.optional Decode.list) in
/-- The shapes of a context, by tag. -/
def shapes : List (Shape Context) :=
  [{ tag := "property", name := "ErrorContext::Property", init := .property "" none [],
     fields :=
       [{ name := "property", store := fun
            | .property _ v a, j => do return .property (← Decode.text j) v a
            | c, _ => .ok c },
        { name := "value", optional := true, store := fun
            | .property p _ a, j => do return .property p (← Decode.optional Decode.text j) a
            | c, _ => .ok c },
        { name := "allowed_values", store := fun
            | .property p v _, j => do return .property p v (← Decode.list Decode.text j)
            | c, _ => .ok c }] },
   { tag := "table", name := "ErrorContext::Table", init := .table "" "",
     fields :=
       [{ name := "table", store := fun
            | .table _ m, j => do return .table (← Decode.text j) m
            | c, _ => .ok c },
        { name := "identifier_mapping", store := fun
            | .table t _, j => do return .table t (← Decode.text j)
            | c, _ => .ok c }] },
   { tag := "generation", name := "ErrorContext::Generation", init := .generation "" "" "",
     fields :=
       [{ name := "dialect", store := fun
            | .generation _ n r, j => do return .generation (← Decode.text j) n r
            | c, _ => .ok c },
        { name := "node", store := fun
            | .generation d _ r, j => do return .generation d (← Decode.text j) r
            | c, _ => .ok c },
        { name := "reason", store := fun
            | .generation d n _, j => do return .generation d n (← Decode.text j)
            | c, _ => .ok c }] },
   { tag := "config_file", name := "ErrorContext::ConfigFile", init := .configFile "",
     fields :=
       [{ name := "file_path", store := fun
            | .configFile _, j => do return .configFile (← Decode.text j)
            | c, _ => .ok c }] }]

/-- Reads a context. -/
def reader : Json.Reader Context := Json.Reader.tagged "ErrorContext" shapes

end Context

namespace Code

/-- Reads a code. -/
def reader : Json.Reader Code := do
  let s ← Json.Reader.text
  match parse s with
  | .ok c => pure c
  | .error e => Json.Reader.raise (.refused e.message)

end Code

namespace Failure

/-- What is at fault. -/
def category (f : Failure) : Category := f.code.category

/-- The configuration is at fault. -/
def isConfig (f : Failure) : Bool := f.category == .config

/-- One statement is at fault. -/
def isGeneration (f : Failure) : Bool := f.category == .generation

/-- The line that is shown to a person. -/
def display (f : Failure) : String :=
  "[" ++ f.code.text ++ "] " ++ f.message ++
    match f.hint with
    | some hint => " (Hint: " ++ hint ++ ")"
    | none => ""

/-- The form that is exchanged; an absent context or hint is left out. -/
def toJson (f : Failure) : Json :=
  .object
    ([("code", .string f.code.text), ("message", .string f.message)] ++
      (match f.context with
        | some c => [("context", c.toJson)]
        | none => []) ++
      (match f.hint with
        | some h => [("hint", .string h)]
        | none => []))

open Json (Reader.text Reader.optional) in
/-- The fields of a refusal. -/
def fields : List (Json.Field Failure) :=
  [{ name := "code", store := fun f => do return { f with code := ← Code.reader } },
   { name := "message", store := fun f => do return { f with message := ← Reader.text } },
   { name := "context", optional := true,
     store := fun f => do return { f with context := ← Reader.optional Context.reader } },
   { name := "hint", optional := true,
     store := fun f => do return { f with hint := ← Reader.optional Reader.text } }]

/-- Reads a refusal. -/
def reader : Json.Reader Failure :=
  Json.Reader.record "PgvsError" fields { code := .serializationFailed, message := "" }

/-- The refusal of a JSON text. -/
def ofFault (f : Json.Fault) : Failure := { code := .serializationFailed, message := f.message }

end Failure

end Pushdown
