import Pushdown.PropertyFile.Line
import Pushdown.PropertyFile.Quoted
import Pushdown.PropertyFile.Toml.Moment

/-!
# `PropertyFile.Toml.Value` — values of TOML on one line

A value is a text between quotes, a truth value, a number, a moment, or a list or a table in brackets. Digits
may be grouped by single underscores. A whole number has no leading zero and fits in 64 bits; a double has
digits on both sides of its point.

## Contents

* `number?` — a truth value or a number.
* `keys?` — the parts of a key.
* `value?` — a value, and what follows it.
-/

namespace Pushdown.Toml

/-! ## Numbers -/

/-- Digits without the underscores between them; each of these stands between two digits. -/
def grouped? (isDigit : Char → Bool) : List Char → Option (List Char)
  | [] => none
  | [c] => if isDigit c then some [c] else none
  | c :: '_' :: rest => if isDigit c then (grouped? isDigit rest).map (c :: ·) else none
  | c :: rest => if isDigit c then (grouped? isDigit rest).map (c :: ·) else none

/-- The digits of a whole number, without a leading zero. -/
def whole? (cs : List Char) : Option (List Char) :=
  match grouped? isDigit cs with
  | some ['0'] => some ['0']
  | some ('0' :: _) => none
  | digits => digits

/-- A sign, and what follows it. -/
def sign : List Char → List Char × List Char
  | '+' :: rest => ([], rest)
  | '-' :: rest => (['-'], rest)
  | cs => ([], cs)

/-- A digit of a base. -/
def isDigitIn (base : Nat) (c : Char) : Bool := ((hexValue c).map fun d => decide (d < base)).getD false

/-- A whole number. -/
def integer? (cs : List Char) : Option Int :=
  let based (base : Nat) (digits : List Char) :=
    (grouped? (isDigitIn base) digits).bind fun digits => (digitsIn? base digits).map Int.ofNat
  let value := match cs with
    | '0' :: 'x' :: digits => based 16 digits
    | '0' :: 'o' :: digits => based 8 digits
    | '0' :: 'b' :: digits => based 2 digits
    | _ =>
      let (mark, rest) := sign cs
      (whole? rest).bind fun digits => signedDecimal? (mark ++ digits)
  value.filter Setting.isWord

/-- A character of the part before the point. -/
def isWholeChar (c : Char) : Bool := isDigit c || c = '_'

/-- The exponent behind its letter. -/
def exponentDigits? (cs : List Char) : Option (List Char) :=
  let (mark, rest) := sign cs
  (grouped? isDigit rest).map (mark ++ ·)

/-- What stands behind the whole part of a double: a fraction, an exponent, or both. -/
def decimals? (cs : List Char) : Option (List Char) :=
  match cs with
  | '.' :: rest => do
    let fraction ← grouped? isDigit (rest.takeWhile isWholeChar)
    match rest.dropWhile isWholeChar with
    | [] => return '.' :: fraction
    | c :: more =>
      if c = 'e' || c = 'E' then return '.' :: fraction ++ 'e' :: (← exponentDigits? more) else none
  | c :: rest => if c = 'e' || c = 'E' then (exponentDigits? rest).map ('e' :: ·) else none
  | [] => none

/-- A double; one too large to hold is refused. -/
def double? (cs : List Char) : Option Binary64 := do
  let (mark, rest) := sign cs
  if rest = "inf".toList || rest = "nan".toList then readDouble? (String.ofList (mark ++ rest))
  else
    let whole ← whole? (rest.takeWhile isWholeChar)
    let decimals ← decimals? (rest.dropWhile isWholeChar)
    let x ← readDouble? (String.ofList (mark ++ whole ++ decimals))
    if x.isFinite || x.isNegative then return x else none

/-- A truth value or a number. -/
def number? (cs : List Char) : Option Setting :=
  if cs = "true".toList then some (.ofBool true)
  else if cs = "false".toList then some (.ofBool false)
  else match integer? cs with
    | some i => some (.ofInt i)
    | none => (double? cs).map .ofDouble

/-! ## Texts and keys -/

/-- What a letter behind a backslash means. -/
def escape? : Char → Option Escape
  | 'b' => some (.char '\x08')
  | 't' => some (.char '\t')
  | 'n' => some (.char '\n')
  | 'f' => some (.char '\x0c')
  | 'r' => some (.char '\r')
  | '"' => some (.char '"')
  | '\\' => some (.char '\\')
  | 'u' => some (.code 4)
  | 'U' => some (.code 8)
  | _ => none

/-- A text between quotes, and what follows it. -/
def quoted? : List Char → Option (String × List Char)
  | '\'' :: rest => (singleQuoted? false rest).map fun (cs, r) => (String.ofList cs, r)
  | '"' :: rest => (doubleQuoted? escape? rest).map fun (cs, r) => (String.ofList cs, r)
  | _ => none

/-- A character of a key without quotes. -/
def isKeyChar (c : Char) : Bool := c.isAlpha || isDigit c || c = '_' || c = '-'

/-- One part of a key, and what follows it. -/
def simpleKey? (cs : List Char) : Option (String × List Char) :=
  match cs with
  | '\'' :: _ => quoted? cs
  | '"' :: _ => quoted? cs
  | _ =>
    let key := cs.takeWhile isKeyChar
    if key.isEmpty then none else some (String.ofList key, cs.dropWhile isKeyChar)

/-- The parts of a key, and what follows them. -/
def keysFrom? : Nat → List Char → Option (List String × List Char)
  | 0, _ => none
  | fuel + 1, cs => do
    let (key, rest) ← simpleKey? cs
    match rest.dropWhile isSpace with
    | '.' :: more =>
      let (keys, rest) ← keysFrom? fuel (more.dropWhile isSpace)
      return (key :: keys, rest)
    | rest => return ([key], rest)

/-- The parts of a key, and what follows them. -/
def keys? (cs : List Char) : Option (List String × List Char) := keysFrom? (cs.length + 1) cs

/-! ## Values -/

/-- A character of a number or a truth value. -/
def isNumberChar (c : Char) : Bool := c.isAlphanum || c = '_' || c = '+' || c = '-' || c = '.'

/-- A value without brackets, and what follows it. -/
def scalar? (cs : List Char) : Option (Setting × List Char) :=
  match quoted? cs with
  | some (s, r) => some (.text s, r)
  | none =>
    match Moment.read? cs with
    | some (moment, r) => some (.text moment.text, r)
    | none => (number? (cs.takeWhile isNumberChar)).map fun s => (s, cs.dropWhile isNumberChar)

/-- None of the keys is the beginning of another, and none comes twice. -/
def areApart (keys : List (List String)) : Bool :=
  match keys with
  | [] => true
  | k :: ks => ks.all (fun l => !k.isPrefixOf l && !l.isPrefixOf k) && areApart ks

mutual

/-- A value, and what follows it; blanks before it are gone. -/
def value? : Nat → List Char → Option (Setting × List Char)
  | 0, _ => none
  | fuel + 1, cs =>
    match cs with
    | '[' :: rest => (items? fuel (rest.dropWhile isSpace)).map fun r => (.nested, r)
    | '\x7b' :: rest =>
      match rest.dropWhile isSpace with
      | '\x7d' :: r => some (.nested, r)
      | r => (members? fuel [] r).map fun r => (.nested, r)
    | _ => scalar? cs

/-- The items of a list, and what follows its closing bracket. -/
def items? : Nat → List Char → Option (List Char)
  | 0, _ => none
  | fuel + 1, cs =>
    match cs with
    | ']' :: rest => some rest
    | _ => do
      let (_, rest) ← value? fuel cs
      match rest.dropWhile isSpace with
      | ',' :: more => items? fuel (more.dropWhile isSpace)
      | ']' :: more => some more
      | _ => none

/-- The entries of a table in brackets, and what follows its closing bracket. -/
def members? : Nat → List (List String) → List Char → Option (List Char)
  | 0, _, _ => none
  | fuel + 1, seen, cs => do
    let (keys, rest) ← keys? cs
    let (_, rest) ← value? fuel ((← behindChar? '=' rest).dropWhile isSpace)
    if !areApart (keys :: seen) then none
    else
      match rest.dropWhile isSpace with
      | ',' :: more => members? fuel (keys :: seen) (more.dropWhile isSpace)
      | '\x7d' :: more => some more
      | _ => none

end

/-- The value of a line; blanks before it are gone. -/
def lineValue? (cs : List Char) : Option Setting := do
  let (setting, rest) ← value? (2 * cs.length + 2) cs
  if isLineEnd rest then return setting else none

end Pushdown.Toml
