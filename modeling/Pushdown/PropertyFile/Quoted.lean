import Pushdown.Number.Digits

/-!
# `PropertyFile.Quoted` — texts between quotes

Between single quotes every character stands for itself. Between double quotes a backslash begins an escape:
a letter that stands for one character, or a letter with the digits of a code point behind it. Which letters
there are is a matter of the format.

## Contents

* `singleQuoted?` — a text between single quotes, and what follows it.
* `Escape`, `doubleQuoted?` — the same between double quotes.
-/

namespace Pushdown

/-- The rest of a text up to a single quote, and what follows that; two quotes stand for one if `doubling`. -/
def singleQuoted? (doubling : Bool) : List Char → Option (List Char × List Char)
  | [] => none
  | '\'' :: rest =>
    match rest with
    | '\'' :: more =>
      if doubling then (singleQuoted? doubling more).map fun (cs, r) => ('\'' :: cs, r)
      else some ([], rest)
    | _ => some ([], rest)
  | c :: rest => (singleQuoted? doubling rest).map fun (cs, r) => (c :: cs, r)

/-- What a letter behind a backslash means. -/
inductive Escape
  /-- It stands for a character. -/
  | char (c : Char)
  /-- It is followed by so many hexadecimal digits of a code point. -/
  | code (length : Nat)
deriving DecidableEq, Repr

/-- How far an escape was read. -/
inductive EscapeState
  /-- There is none. -/
  | outside
  /-- Its backslash. -/
  | begun
  /-- Some of its digits; so many are left. -/
  | digits (left value : Nat)
deriving DecidableEq, Repr

/-- The rest of a text up to a double quote, escapes replaced, and what follows that. -/
def doubleQuotedFrom? (escape? : Char → Option Escape) :
    EscapeState → List Char → Option (List Char × List Char)
  | _, [] => none
  | .outside, c :: rest =>
    if c = '"' then some ([], rest)
    else if c = '\\' then doubleQuotedFrom? escape? .begun rest
    else (doubleQuotedFrom? escape? .outside rest).map fun (cs, r) => (c :: cs, r)
  | .begun, c :: rest =>
    match escape? c with
    | some (.char d) => (doubleQuotedFrom? escape? .outside rest).map fun (cs, r) => (d :: cs, r)
    | some (.code length) => doubleQuotedFrom? escape? (.digits length 0) rest
    | none => none
  | .digits left value, c :: rest =>
    match hexValue c with
    | none => none
    | some d =>
      let n := value * 16 + d
      if 1 < left then doubleQuotedFrom? escape? (.digits (left - 1) n) rest
      else if n.isValidChar then
        (doubleQuotedFrom? escape? .outside rest).map fun (cs, r) => (Char.ofNat n :: cs, r)
      else none

/-- The rest of a text up to a double quote, escapes replaced, and what follows that. -/
def doubleQuoted? (escape? : Char → Option Escape) (cs : List Char) : Option (List Char × List Char) :=
  doubleQuotedFrom? escape? .outside cs

end Pushdown
