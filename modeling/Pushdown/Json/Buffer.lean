import Pushdown.Json.Number

/-!
# `Json.Buffer` — reading any value

## Contents

* `mismatch` — refuses the next value because something else was expected.
* `value` — the next value, whatever it is.
* `parse` — a whole text as a value.
-/

namespace Pushdown.Json

namespace Reader

/-- Refuses the next value because something else was expected. A scalar is read to be shown. -/
def mismatch {α : Type} (expected : String) : Reader α := placed do
  match ← peek with
  | none => failPeek .expectedValue
  | some c =>
    if c = 'n' then
      eat
      word "ull".toList
      raise (.invalidType .null expected)
    else if c = 't' then
      eat
      word "rue".toList
      raise (.invalidType (.bool true) expected)
    else if c = 'f' then
      eat
      word "alse".toList
      raise (.invalidType (.bool false) expected)
    else if c = '-' then
      eat
      let n ← number true
      raise (.invalidType n.found expected)
    else if isDigit c then
      let n ← number false
      raise (.invalidType n.found expected)
    else if c = '"' then
      eat
      let s ← stringBody
      raise (.invalidType (.string s) expected)
    else if c = '[' then raise (.invalidType .sequence expected)
    else if c = '\x7b' then raise (.invalidType .map expected)
    else failPeek .expectedValue

mutual

/-- The next value. -/
def valueFrom : Nat → Reader Json
  | 0 => fail .expectedValue
  | fuel + 1 => do
    match ← peekToken with
    | none => failPeek .endInValue
    | some c =>
      if c = 'n' then
        eat
        word "ull".toList
        pure .null
      else if c = 't' then
        eat
        word "rue".toList
        pure (.bool true)
      else if c = 'f' then
        eat
        word "alse".toList
        pure (.bool false)
      else if c = '-' then
        eat
        let n ← number true
        pure n.toJson
      else if isDigit c then
        let n ← number false
        pure n.toJson
      else if c = '"' then
        eat
        let s ← stringBody
        pure (.string s)
      else if c = '[' then
        let items ← enclosed (itemsFrom fuel true []) endList
        pure (.array items)
      else if c = '\x7b' then
        let members ← enclosed (membersFrom fuel true []) endObject
        pure (.object members)
      else failPeek .expectedValue

/-- The items of an array, `passed` being those already read, the last first. -/
def itemsFrom : Nat → Bool → List Json → Reader (List Json)
  | 0, _, _ => fail .expectedValue
  | fuel + 1, first, passed => do
    if ← nextItem first then
      let v ← valueFrom fuel
      itemsFrom fuel false (v :: passed)
    else pure passed.reverse

/-- The members of an object, `passed` being those already read, the last first. -/
def membersFrom : Nat → Bool → List (String × Json) → Reader (List (String × Json))
  | 0, _, _ => fail .expectedValue
  | fuel + 1, first, passed => do
    if ← nextKey first then
      let key ← stringBody
      colon
      let v ← valueFrom fuel
      membersFrom fuel false ((key, v) :: passed)
    else pure passed.reverse

end

/-- Enough steps for a text of `n` characters: no character takes more than two. -/
def fuelFor (n : Nat) : Nat := 2 * n + 2

/-- The next value. -/
def value : Reader Json := do
  let n ← remaining
  valueFrom (fuelFor n)

end Reader

/-- A whole text as a value. -/
def parse (s : String) : Except Fault Json := Reader.run Reader.value s

end Pushdown.Json
