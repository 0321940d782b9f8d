import Pushdown.Properties
import Pushdown.PropertyFile.Toml
import Pushdown.PropertyFile.Yaml
import Pushdown.Text.Case
import Pushdown.Text.Cut

/-!
# `PropertyFile.Source` — options from a file and from the environment

The format of a file is told by the end of its name. A file that is not there holds nothing. Variables of the
environment come after the file, so that they win. Keys are compared in lower case, and the options that come
out have theirs in upper case.

## Contents

* `FileError` — why a file cannot be used.
* `fileSettings` — the settings of a file.
* `environmentSettings` — the settings of the environment.
* `Properties.ofFile` — the options of both.
-/

namespace Pushdown

/-- Why a file cannot be used. -/
inductive FileError
  /-- Its format is unknown, or it does not keep to its format. -/
  | unreadable
  /-- Some value has no text. -/
  | notFlat
deriving DecidableEq, Repr

namespace FileError

/-- The wording of the refusal of a file. -/
def message (path : String) : FileError → String
  | .unreadable => "Failed to build adapter properties"
  | .notFlat => "Adapter properties in '" ++ path ++ "' must be flat strings"

end FileError

/-- The end of a file's name behind its last dot; a dot at its start does not count. -/
def extension (path : String) : Option String :=
  let name := (path.toList.reverse.takeWhile (· ≠ '/')).reverse
  match name.reverse.span (· ≠ '.') with
  | (_, []) => none
  | (_, [_]) => none
  | (reversed, _) => some (String.ofList reversed.reverse)

/-- The settings of a JSON text, which is an object. -/
def jsonSettings? (s : String) : Option (List (String × Setting)) :=
  match Json.parse s with
  | .ok (.object members) => some (members.map fun (k, v) => (k, .ofJson v))
  | _ => none

/-- The settings of a text in the format that an extension names. -/
def settings? (format : Option String) (content : String) : Option (List (String × Setting)) :=
  match format with
  | some "json" => jsonSettings? content
  | some "toml" => Toml.parse? content
  | some "yaml" => Yaml.parse? content
  | some "yml" => Yaml.parse? content
  | _ => none

/-- The settings of a file; none if it is not there. -/
def fileSettings (path : String) (content : Option String) :
    Except FileError (List (String × Setting)) :=
  match content with
  | none => .ok []
  | some text =>
    match settings? (extension path) text with
    | some settings => .ok settings
    | none => .error .unreadable

/-- What the name of a variable begins with, in lower case. -/
def variableStart : List Char := "pgvs_".toList

/-- The settings of the environment: variables whose name has the right beginning, in any case. -/
def environmentSettings (environment : List (String × String)) : List (String × Setting) :=
  environment.filterMap fun (name, value) =>
    (Text.behind? variableStart (Text.lower name).toList).map fun key =>
      (String.ofList key, .text value)

/-! ## Paths -/

/-- A character of a part of a path. -/
def isPathChar (c : Char) : Bool := c.isAlpha || isDigit c || c = '_' || c = '-'

/-- How far a path was read. -/
inductive PathState
  /-- Inside a part. -/
  | part
  /-- Behind a dot. -/
  | dot
  /-- Behind an opening bracket. -/
  | bracket
  /-- Behind the sign of a number. -/
  | sign
  /-- Inside a number. -/
  | number
  /-- Behind a closing bracket. -/
  | closed
deriving DecidableEq, Repr

/-- The state behind one more character, if it may stand there. -/
def PathState.step? : PathState → Char → Option PathState
  | .part, c =>
    if isPathChar c then some .part
    else if c = '.' then some .dot
    else if c = '[' then some .bracket else none
  | .dot, c => if isPathChar c then some .part else none
  | .bracket, c => if c = '-' then some .sign else if isDigit c then some .number else none
  | .sign, c => if isDigit c then some .number else none
  | .number, c => if isDigit c then some .number else if c = ']' then some .closed else none
  | .closed, c => if c = '.' then some .dot else if c = '[' then some .bracket else none

/-- The characters end a path: parts with dots between them, and numbers in brackets behind them. -/
def endsPath (state : PathState) : List Char → Bool
  | [] => state = .part || state = .closed
  | c :: cs =>
    match state.step? c with
    | some next => endsPath next cs
    | none => false

/-- The first part of a key that is a path of several parts. -/
def pathHead? (key : String) : Option String :=
  let head := key.toList.takeWhile isPathChar
  let rest := key.toList.dropWhile isPathChar
  if !head.isEmpty && !rest.isEmpty && endsPath .part rest then some (String.ofList head) else none

/-- A setting under the key that it has in the end; a path of several parts nests it. -/
def placed (entry : String × Setting) : String × Setting :=
  match pathHead? entry.1 with
  | some head => (Text.lower head, .nested)
  | none => (Text.lower entry.1, entry.2)

/-- The last setting of each key. -/
def lastSettings : List (String × Setting) → List (String × Setting)
  | [] => []
  | entry :: rest =>
    if rest.any (·.1 == entry.1) then lastSettings rest else entry :: lastSettings rest

namespace Properties

/-- The options that settings make, if all of them are texts. -/
def ofSettings (settings : List (String × Setting)) : Except FileError Properties := do
  let entries ← (lastSettings (settings.map placed)).mapM fun
    | (key, .text value) => Except.ok (Text.asciiUpper key, value)
    | (_, .nested) => .error .notFlat
  return ofList entries

/-- The options of a file and of the environment. -/
def ofFile (path : String) (content : Option String) (environment : List (String × String)) :
    Except FileError Properties := do
  let settings ← fileSettings path content
  ofSettings (settings ++ environmentSettings environment)

end Properties

end Pushdown
