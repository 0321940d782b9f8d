import Pushdown.Json.Number

/-!
# `Json.Skip` — values that nobody reads

The value of a field without a name in the record is passed over with a stack of open brackets, so its
nesting is not limited. Commas are checked more loosely than in values that are read: a comma before a
closing bracket is reported as the missing value or key behind it.

## Contents

* `skipValue` — passes over one value.
-/

namespace Pushdown.Json

/-- A bracket that is still open. -/
inductive Bracket
  | list
  | object
deriving DecidableEq, Repr

namespace Bracket

/-- The text ends inside the brackets. -/
def unclosed : Bracket → Cause
  | .list => .endInList
  | .object => .endInObject

/-- Neither a comma nor the closing bracket follows an item. -/
def expectedEnd : Bracket → Cause
  | .list => .expectedListEnd
  | .object => .expectedObjectEnd

/-- The closing bracket. -/
def closing : Bracket → Char
  | .list => ']'
  | .object => '\x7d'

end Bracket

namespace Reader

/-- What a value begins with: a whole scalar, or an opening bracket. -/
def skipHead : Reader (Option Bracket) := do
  match ← peekToken with
  | none => failPeek .endInValue
  | some c =>
    if c = 'n' then
      eat
      word "ull".toList
      pure none
    else if c = 't' then
      eat
      word "rue".toList
      pure none
    else if c = 'f' then
      eat
      word "alse".toList
      pure none
    else if c = '-' then
      eat
      skipNumber
      pure none
    else if isDigit c then
      skipNumber
      pure none
    else if c = '"' then
      eat
      skipString
      pure none
    else if c = '[' then
      eat
      pure (some .list)
    else if c = '\x7b' then
      eat
      pure (some .object)
    else failPeek .expectedValue

/-- The key and the colon in front of a value. -/
def skipKey : Reader Unit := do
  match ← peekToken with
  | none => failPeek .endInObject
  | some c =>
    if c = '"' then
      eat
      skipString
      colon
    else failPeek .keyNotString

mutual

/-- Passes over a value inside the open brackets `up`. -/
def skipFrom : Nat → List Bracket → Reader Unit
  | 0, _ => fail .expectedValue
  | fuel + 1, up => do
    match ← skipHead with
    | none => skipAfter fuel up true
    | some b => skipAfter fuel (b :: up) false

/-- Passes over what follows inside the open brackets; `item` tells that an item was just passed. -/
def skipAfter : Nat → List Bracket → Bool → Reader Unit
  | 0, _, _ => fail .expectedValue
  | _ + 1, [], _ => pure ()
  | fuel + 1, b :: up, item => do
    match ← peekToken with
    | none => failPeek b.unclosed
    | some c =>
      if c = b.closing then
        eat
        skipAfter fuel up true
      else if c = ',' && item then
        eat
        (if b = .object then skipKey else pure ())
        skipFrom fuel (b :: up)
      else if item then failPeek b.expectedEnd
      else
        (if b = .object then skipKey else pure ())
        skipFrom fuel (b :: up)

end

/-- Passes over one value. -/
def skipValue : Reader Unit := do
  let n ← remaining
  skipFrom (2 * n + 2) []

end Reader

end Pushdown.Json
