import Pushdown.Json.Fault

/-!
# `Json.Reader` — reading a JSON text from left to right

A reader consumes characters from a cursor and yields a value or a fault. A fault of syntax has its place
from the start; a fault about the meaning of what was read gets the place that the reader has reached when
the enclosing value is done with. Columns count bytes, and a fault about a character that was looked at but
not consumed counts the first byte of it.

## Contents

* `Cursor`, `Reader` — the state and the monad.
* `peekToken`, `eat`, `word` — single characters and fixed words.
* `stringBody` — the rest of a string after its opening quote.
* `enclosed` — the inside of brackets, with the limit on nesting.
-/

namespace Pushdown.Json

/-- What is left of the text, where it begins, and how deep values may still nest. -/
structure Cursor where
  rest : List Char
  position : Position
  depth : Nat
deriving Repr

namespace Position

/-- The place behind one character. -/
def advance (p : Position) (c : Char) : Position :=
  if c = '\n' then ⟨p.line + 1, 0⟩ else ⟨p.line, p.column + c.utf8Size⟩

/-- The place behind the first `n` bytes of a text. -/
def advanceBytes : Position → Nat → List Char → Position
  | p, _, [] => p
  | p, n, c :: r =>
    if n = 0 then p
    else if n < c.utf8Size then ⟨p.line, p.column + n⟩
    else advanceBytes (p.advance c) (n - c.utf8Size) r

end Position

namespace Cursor

/-- The start of a text. -/
def start (s : String) : Cursor := ⟨s.toList, ⟨1, 0⟩, 128⟩

/-- The place behind the first byte of the next character. -/
def peekPosition (c : Cursor) : Position :=
  match c.rest with
  | [] => c.position
  | ch :: _ => if ch = '\n' then ⟨c.position.line + 1, 0⟩ else ⟨c.position.line, c.position.column + 1⟩

/-- The cursor behind the next character. -/
def advance (c : Cursor) : Cursor :=
  match c.rest with
  | [] => c
  | ch :: r => { c with rest := r, position := c.position.advance ch }

end Cursor

/-- A reader of values of type `α`. -/
def Reader (α : Type) : Type := Cursor → Except Fault α × Cursor

namespace Reader

instance : Monad Reader where
  pure a := fun c => (.ok a, c)
  bind r f := fun c =>
    match r c with
    | (.ok a, c') => f a c'
    | (.error e, c') => (.error e, c')

/-- Refuses at the current place. -/
def fail {α : Type} (cause : Cause) : Reader α := fun c => (.error ⟨cause, some c.position⟩, c)

/-- Refuses at the next character. -/
def failPeek {α : Type} (cause : Cause) : Reader α := fun c => (.error ⟨cause, some c.peekPosition⟩, c)

/-- Refuses without a place. -/
def raise {α : Type} (cause : Cause) : Reader α := fun c => (.error ⟨cause, none⟩, c)

/-- A fault without a place gets the place that the reader has reached. -/
def placed {α : Type} (r : Reader α) : Reader α := fun c =>
  match r c with
  | (.ok a, c') => (.ok a, c')
  | (.error e, c') => (.error (e.placedAt c'.position), c')

/-- A result that was computed aside. -/
def ofExcept {α : Type} : Except Cause α → Reader α
  | .ok a => pure a
  | .error cause => raise cause

/-- The number of characters left. -/
def remaining : Reader Nat := fun c => (.ok c.rest.length, c)

/-- The next character, not consumed. -/
def peek : Reader (Option Char) := fun c => (.ok c.rest.head?, c)

/-- Consumes the next character. -/
def eat : Reader Unit := fun c => (.ok (), c.advance)

end Reader

/-- A blank between tokens. -/
def isJsonBlank (c : Char) : Bool := c = ' ' || c = '\n' || c = '\t' || c = '\r'

/-- What follows the blanks at the head of a text, and its place. -/
def dropBlanks : List Char → Position → List Char × Position
  | [], p => ([], p)
  | c :: r, p => if isJsonBlank c then dropBlanks r (p.advance c) else (c :: r, p)

namespace Reader

/-- Consumes blanks. -/
def skipBlanks : Reader Unit := fun c =>
  let (rest, position) := dropBlanks c.rest c.position
  (.ok (), { c with rest, position })

/-- The first character of the next token, not consumed. -/
def peekToken : Reader (Option Char) := do
  skipBlanks
  peek

/-- Consumes the letters of a fixed word. -/
def word : List Char → Reader Unit
  | [] => pure ()
  | l :: ls => do
    match ← peek with
    | none => fail .endInValue
    | some c =>
      if c = l then
        eat
        word ls
      else failPeek .expectedWord

/-! ## Strings -/

/-- Number of bytes of a text. -/
def byteLength (cs : List Char) : Nat := cs.foldl (fun n c => n + c.utf8Size) 0

/-- Refuses an escape whose next four bytes are not hexadecimal digits. -/
def badQuad {α : Type} : Reader α := fun c =>
  let cause := if byteLength c.rest < 4 then Cause.endInString else Cause.invalidEscape
  (.error ⟨cause, some (c.position.advanceBytes 4 c.rest)⟩, c)

/-- The value of four hexadecimal digits. -/
def hexQuad : Reader Nat := fun c =>
  match c.rest with
  | h₁ :: h₂ :: h₃ :: h₄ :: _ =>
    match hexValue h₁, hexValue h₂, hexValue h₃, hexValue h₄ with
    | some d₁, some d₂, some d₃, some d₄ =>
      (.ok (((d₁ * 16 + d₂) * 16 + d₃) * 16 + d₄), c.advance.advance.advance.advance)
    | _, _, _, _ => badQuad c
  | _ => badQuad c

/-- The first half of a surrogate pair. -/
def isLeading (n : Nat) : Bool := 0xd800 ≤ n && n ≤ 0xdbff

/-- The second half of a surrogate pair. -/
def isTrailing (n : Nat) : Bool := 0xdc00 ≤ n && n ≤ 0xdfff

/-- One character inside a string that the escape syntax requires. -/
def escapePart (expected : Char) : Reader Unit := do
  match ← peek with
  | none => fail .endInString
  | some c => if c = expected then eat else failPeek .unfinishedEscape

/-- The character that the digits of a `\u` escape stand for, a second escape included where the first is
half of a surrogate pair. -/
def unicodeEscape : Reader Char := do
  let n ← hexQuad
  if isTrailing n then fail .loneSurrogate
  else if isLeading n then
    escapePart '\\'
    escapePart 'u'
    let m ← hexQuad
    if isTrailing m then pure (Char.ofNat ((n - 0xd800) * 0x400 + (m - 0xdc00) + 0x10000))
    else fail .loneSurrogate
  else pure (Char.ofNat n)

/-- The character that a letter behind a backslash stands for. -/
def simpleEscape (c : Char) : Option Char :=
  if c = '"' || c = '\\' || c = '/' then some c
  else if c = 'b' then some '\x08'
  else if c = 'f' then some '\x0c'
  else if c = 'n' then some '\n'
  else if c = 'r' then some '\r'
  else if c = 't' then some '\t'
  else none

/-- The character that an escape stands for, its backslash consumed. -/
def escape : Reader Char := do
  match ← peek with
  | none => fail .endInString
  | some c =>
    if c = 'u' then
      eat
      unicodeEscape
    else match simpleEscape c with
      | some d =>
        eat
        pure d
      | none => failPeek .invalidEscape

/-- The rest of a string after its opening quote, `passed` being what was read of it, the last first. -/
def stringLoop : Nat → List Char → Reader (List Char)
  | 0, _ => fail .endInString
  | fuel + 1, passed => do
    match ← peek with
    | none => fail .endInString
    | some c =>
      if c = '"' then
        eat
        pure passed.reverse
      else if c = '\\' then
        eat
        let d ← escape
        stringLoop fuel (d :: passed)
      else if c.toNat < 0x20 then failPeek .controlCharacter
      else
        eat
        stringLoop fuel (c :: passed)

/-- The rest of a string after its opening quote. -/
def stringBody : Reader String := do
  let n ← remaining
  let cs ← stringLoop (n + 1) []
  pure (String.ofList cs)

/-- Passes over the rest of a string that nobody reads. Surrogates need no partner there, and a control
character is refused at the place in front of it. -/
def skipStringLoop : Nat → Reader Unit
  | 0 => fail .endInString
  | fuel + 1 => do
    match ← peek with
    | none => fail .endInString
    | some c =>
      if c = '"' then eat
      else if c = '\\' then
        eat
        match ← peek with
        | none => fail .endInString
        | some d =>
          if d = 'u' then
            eat
            let _ ← hexQuad
            skipStringLoop fuel
          else if (simpleEscape d).isSome then
            eat
            skipStringLoop fuel
          else failPeek .invalidEscape
      else if c.toNat < 0x20 then fail .controlCharacter
      else
        eat
        skipStringLoop fuel

/-- Passes over the rest of a string that nobody reads. -/
def skipString : Reader Unit := do
  let n ← remaining
  skipStringLoop (n + 1)

/-! ## Brackets -/

/-- The closing bracket of an array. -/
def endList : Reader Unit := do
  match ← peekToken with
  | none => failPeek .endInList
  | some c =>
    if c = ']' then eat
    else if c = ',' then
      eat
      match ← peekToken with
      | some ']' => failPeek .trailingComma
      | _ => failPeek .trailingCharacters
    else failPeek .trailingCharacters

/-- The closing bracket of an object. -/
def endObject : Reader Unit := do
  match ← peekToken with
  | none => failPeek .endInObject
  | some c =>
    if c = '\x7d' then eat
    else if c = ',' then failPeek .trailingComma
    else failPeek .trailingCharacters

/-- Runs `close` after `body` even when `body` was refused; the fault of `body` comes first. -/
def thenClose {α : Type} (body : Reader α) (close : Reader Unit) : Reader α := fun c =>
  match body c with
  | (.ok a, c') =>
    match close c' with
    | (.ok (), c'') => (.ok a, c'')
    | (.error e, c'') => (.error e, c'')
  | (.error e, c') => (.error e, (close c').2)

/-- One level deeper, the opening bracket consumed. -/
def descend : Reader Unit := fun c =>
  if c.depth ≤ 1 then failPeek .tooDeep c else (.ok (), { c.advance with depth := c.depth - 1 })

/-- One level up. -/
def ascend : Reader Unit := fun c => (.ok (), { c with depth := c.depth + 1 })

/-- The inside of brackets; a fault in it is placed behind the attempt to close them. -/
def enclosed {α : Type} (body : Reader α) (close : Reader Unit) : Reader α := do
  descend
  placed (thenClose body (do ascend; close))

/-- Another item follows in an array; its comma is consumed. -/
def nextItem (first : Bool) : Reader Bool := do
  match ← peekToken with
  | none => failPeek .endInList
  | some c =>
    if c = ']' then pure false
    else if first then pure true
    else if c = ',' then
      eat
      match ← peekToken with
      | none => failPeek .endInValue
      | some d => if d = ']' then failPeek .trailingComma else pure true
    else failPeek .expectedListEnd

/-- Another key follows in an object; its comma and its opening quote are consumed. -/
def nextKey (first : Bool) : Reader Bool := do
  match ← peekToken with
  | none => failPeek .endInObject
  | some c =>
    if c = '\x7d' then pure false
    else if first then
      if c = '"' then
        eat
        pure true
      else failPeek .keyNotString
    else if c = ',' then
      eat
      match ← peekToken with
      | none => failPeek .endInValue
      | some d =>
        if d = '"' then
          eat
          pure true
        else if d = '\x7d' then failPeek .trailingComma
        else failPeek .keyNotString
    else failPeek .expectedObjectEnd

/-- The colon between a key and its value. -/
def colon : Reader Unit := do
  match ← peekToken with
  | none => failPeek .endInObject
  | some c => if c = ':' then eat else failPeek .expectedColon

/-- Reads a whole text: one value and nothing behind it. -/
def run {α : Type} (r : Reader α) (s : String) : Except Fault α :=
  let whole : Reader α := do
    let a ← r
    match ← peekToken with
    | none => pure a
    | some _ => failPeek .trailingCharacters
  (whole (Cursor.start s)).1

end Reader

end Pushdown.Json
