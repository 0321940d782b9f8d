import Pushdown.Json.Decode
import Pushdown.Text.Ascii
import Pushdown.Text.Blank

/-!
# `Properties` — the options of an adapter

The federation engine hands over a map of texts. Its keys are kept in the order of their code points, each once.

## Contents

* `Properties` — the map, with `get?`, `insert`, `keys`.
* `Properties.ignoredErrors` — the entries of the list of ignored errors.
* `Properties.toJson`, `Properties.reader` — the form that is exchanged.
-/

namespace Pushdown

/-- The entries with one for `key`, in place of any that it had, in the order of the keys. -/
def insertEntry (key value : String) : List (String × String) → List (String × String)
  | [] => [(key, value)]
  | (k, v) :: rest =>
    if key < k then (key, value) :: (k, v) :: rest
    else if key = k then (key, value) :: rest
    else (k, v) :: insertEntry key value rest

/-- Setting an option adds no other key. -/
theorem mem_keys_insertEntry {key value k : String} {entries : List (String × String)}
    (h : k ∈ (insertEntry key value entries).map Prod.fst) : k = key ∨ k ∈ entries.map Prod.fst := by
  induction entries with
  | nil => simpa [insertEntry] using h
  | cons entry rest ih =>
    rw [insertEntry] at h
    split at h
    · simpa using h
    · split at h
      · next hk => simp only [List.map_cons, List.mem_cons] at h ⊢; grind
      · simp only [List.map_cons, List.mem_cons] at h ⊢; grind

/-- **Setting an option keeps the keys in order, each once.** Along the entries: the new one goes in front of the
first greater key, or takes the place of its own. -/
theorem pairwise_keys_insertEntry {key value : String} {entries : List (String × String)}
    (h : (entries.map Prod.fst).Pairwise (· < ·)) :
    ((insertEntry key value entries).map Prod.fst).Pairwise (· < ·) := by
  induction entries with
  | nil => simp [insertEntry]
  | cons entry rest ih =>
    obtain ⟨k, v⟩ := entry
    rw [List.map_cons, List.pairwise_cons] at h
    rw [insertEntry]
    split
    · next hlt =>
      rw [List.map_cons, List.pairwise_cons]
      refine ⟨fun x hx => ?_, List.pairwise_cons.2 h⟩
      rcases List.mem_cons.1 hx with rfl | hx
      · exact hlt
      · exact String.lt_trans hlt (h.1 x hx)
    · next hnot =>
      split
      · next heq => exact heq ▸ List.pairwise_cons.2 h
      · next hne =>
        rw [List.map_cons, List.pairwise_cons]
        refine ⟨fun x hx => ?_, ih h.2⟩
        rcases mem_keys_insertEntry hx with rfl | hx
        · exact String.not_le.1 fun hle => hne (String.le_antisymm hle (String.not_lt.1 hnot))
        · exact h.1 x hx

/-- The options of an adapter: texts under keys that are in order, each once. -/
structure Properties where
  entries : List (String × String) := []
  sorted : (entries.map Prod.fst).Pairwise (· < ·) := by exact .nil

namespace Properties

/-- No options. -/
def empty : Properties := {}

/-- The value of a key. -/
def get? (p : Properties) (key : String) : Option String := p.entries.lookup key

/-- The options with one for `key`, in place of any that it had. -/
def insert (p : Properties) (key value : String) : Properties :=
  ⟨insertEntry key value p.entries, pairwise_keys_insertEntry p.sorted⟩

/-- The options of a list; the last for a key counts. -/
def ofList (entries : List (String × String)) : Properties :=
  entries.foldl (fun p entry => p.insert entry.1 entry.2) empty

/-- The keys, in order. -/
def keys (p : Properties) : List String := p.entries.map Prod.fst

/-- The key has a value. -/
def contains (p : Properties) (key : String) : Bool := (p.get? key).isSome

/-- There are no options. -/
def isEmpty (p : Properties) : Bool := p.entries.isEmpty

/-! ## Options that every adapter has -/

/-- Key of the connection to the remote database. -/
def connectionKey : String := "CONNECTION_NAME"

/-- Key of the remote catalogue. -/
def catalogKey : String := "CATALOG_NAME"

/-- Key of the remote schema. -/
def schemaKey : String := "SCHEMA_NAME"

/-- Key of the errors that are passed over. -/
def ignoreKey : String := "IGNORE_ERRORS"

/-- Key of the dialect. -/
def dialectKey : String := "SQL_DIALECT"

/-- Key of the log level. -/
def logLevelKey : String := "LOG_LEVEL"

/-- The keys that every adapter knows. -/
def commonKeys : List String :=
  [connectionKey, catalogKey, schemaKey, ignoreKey, dialectKey, logLevelKey]

/-- Name of the connection. -/
def connection? (p : Properties) : Option String := p.get? connectionKey

/-- Name of the remote catalogue. -/
def catalog? (p : Properties) : Option String := p.get? catalogKey

/-- Name of the remote schema. -/
def schema? (p : Properties) : Option String := p.get? schemaKey

/-- The entries of a list of errors: the pieces between commas, without blanks at their ends and with ASCII
letters in upper case, empty ones left out. -/
def errorEntries (list : String) : List String :=
  ((Text.split ',' list).map fun piece => Text.asciiUpper (Text.trim piece)).filter (· ≠ "")

/-- The errors that are passed over. -/
def ignoredErrors (p : Properties) : List String :=
  match p.get? ignoreKey with
  | some list => errorEntries list
  | none => []

/-- The error is passed over. -/
def ignores (p : Properties) (error : String) : Bool := p.ignoredErrors.contains error

/-! ## The form that is exchanged -/

/-- An object of texts. -/
def toJson (p : Properties) : Json := .object (p.entries.map fun (k, v) => (k, .string v))

/-- Reads options. A key that comes twice has its last value. -/
def reader : Json.Reader Properties := do
  let entries ← Json.Reader.entries Json.Reader.text
  pure (ofList entries)

end Properties

end Pushdown
