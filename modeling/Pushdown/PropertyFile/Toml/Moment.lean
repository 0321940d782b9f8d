import Pushdown.Number.Digits

/-!
# `PropertyFile.Toml.Moment` — dates and times of TOML

A moment is a date, a time, or both with an optional distance from universal time. Its text is uniform,
however it was written: the letters are capital, date and time are separated by one, and a fraction of a second
ends with its last digit that is not zero.

## Contents

* `Moment` — a date, a time and an offset.
* `Moment.read?` — a moment at the head of a text.
* `Moment.text` — its text.
-/

namespace Pushdown.Toml

/-- A day of the calendar. -/
structure Day where
  year : Nat
  month : Nat
  day : Nat
deriving DecidableEq, Repr

/-- A time of the day. -/
structure Clock where
  hour : Nat
  minute : Nat
  second : Nat
  nanosecond : Nat
deriving DecidableEq, Repr

/-- The distance from universal time. -/
inductive Offset
  | universal
  | shifted (negative : Bool) (hours minutes : Nat)
deriving DecidableEq, Repr

/-- A date, a time, or both. -/
inductive Moment
  | date (day : Day)
  | time (clock : Clock)
  | both (day : Day) (clock : Clock) (offset : Option Offset)
deriving DecidableEq, Repr

/-! ## Reading -/

/-- A number of exactly `n` digits, and what follows it. -/
def fixed? (n : Nat) (cs : List Char) : Option (Nat × List Char) := do
  let digits := cs.take n
  if digits.length = n then return (← decimal? digits, cs.drop n) else none

/-- What follows a character. -/
def behindChar? (c : Char) : List Char → Option (List Char)
  | d :: rest => if d = c then some rest else none
  | [] => none

/-- The number of days of a month. -/
def daysOf (year month : Nat) : Nat :=
  if month = 2 then
    if (year % 4 = 0 && year % 100 ≠ 0) || year % 400 = 0 then 29 else 28
  else if month = 4 || month = 6 || month = 9 || month = 11 then 30
  else 31

/-- A date, and what follows it. -/
def day? (cs : List Char) : Option (Day × List Char) := do
  let (year, cs) ← fixed? 4 cs
  let (month, cs) ← fixed? 2 (← behindChar? '-' cs)
  let (day, cs) ← fixed? 2 (← behindChar? '-' cs)
  if 1 ≤ month && month ≤ 12 && 1 ≤ day && day ≤ daysOf year month then return (⟨year, month, day⟩, cs)
  else none

/-- Digits of a fraction as billionths; further digits do not count. -/
def billionths (digits : List Char) : Nat := decimalFrom 0 ((digits ++ List.replicate 9 '0').take 9)

/-- A fraction of a second in nanoseconds, and what follows it. -/
def fraction? (cs : List Char) : Option (Nat × List Char) :=
  match cs with
  | '.' :: rest =>
    let digits := rest.takeWhile isDigit
    if digits.isEmpty then none else some (billionths digits, rest.dropWhile isDigit)
  | _ => some (0, cs)

/-- A time, and what follows it. -/
def clock? (cs : List Char) : Option (Clock × List Char) := do
  let (hour, cs) ← fixed? 2 cs
  let (minute, cs) ← fixed? 2 (← behindChar? ':' cs)
  let (second, cs) ← fixed? 2 (← behindChar? ':' cs)
  let (nanosecond, cs) ← fraction? cs
  if hour ≤ 23 && minute ≤ 59 && second ≤ 60 then return (⟨hour, minute, second, nanosecond⟩, cs)
  else none

/-- Hours and minutes behind a sign, and what follows them. -/
def shift? (negative : Bool) (cs : List Char) : Option (Option Offset × List Char) := do
  let (hours, cs) ← fixed? 2 cs
  let (minutes, cs) ← fixed? 2 (← behindChar? ':' cs)
  if hours ≤ 23 && minutes ≤ 59 then return (some (.shifted negative hours minutes), cs) else none

/-- The distance from universal time, if there is one, and what follows it. -/
def offset? (cs : List Char) : Option (Option Offset × List Char) :=
  match cs with
  | 'Z' :: rest => some (some .universal, rest)
  | 'z' :: rest => some (some .universal, rest)
  | '+' :: rest => shift? false rest
  | '-' :: rest => shift? true rest
  | _ => some (none, cs)

namespace Moment

/-- A moment at the head of a text, and what follows it. -/
def read? (cs : List Char) : Option (Moment × List Char) :=
  match day? cs with
  | some (day, []) => some (.date day, [])
  | some (day, c :: rest) =>
    if c = 'T' || c = 't' || c = ' ' then
      match clock? rest with
      | some (clock, r) => (offset? r).map fun (offset, r) => (.both day clock offset, r)
      | none => some (.date day, c :: rest)
    else some (.date day, c :: rest)
  | none => (clock? cs).map fun (clock, r) => (.time clock, r)

end Moment

/-! ## Writing -/

/-- A number with at least `n` digits. -/
def padded (n k : Nat) : List Char :=
  let digits := Nat.toDigits 10 k
  List.replicate (n - digits.length) '0' ++ digits

namespace Day

/-- The text of a date. -/
def chars (d : Day) : List Char := padded 4 d.year ++ '-' :: padded 2 d.month ++ '-' :: padded 2 d.day

end Day

namespace Clock

/-- The text of a time. -/
def chars (c : Clock) : List Char :=
  padded 2 c.hour ++ ':' :: padded 2 c.minute ++ ':' :: padded 2 c.second ++
    (if c.nanosecond = 0 then []
     else '.' :: ((padded 9 c.nanosecond).reverse.dropWhile (· = '0')).reverse)

end Clock

namespace Offset

/-- The text of a distance from universal time; one of nothing has a plus sign. -/
def chars : Offset → List Char
  | .universal => ['Z']
  | .shifted negative hours minutes =>
    (if negative && (hours ≠ 0 || minutes ≠ 0) then '-' else '+') :: padded 2 hours ++
      ':' :: padded 2 minutes

end Offset

namespace Moment

/-- The text of a moment. -/
def text : Moment → String
  | .date day => String.ofList day.chars
  | .time clock => String.ofList clock.chars
  | .both day clock offset =>
    String.ofList (day.chars ++ 'T' :: clock.chars ++ (offset.map Offset.chars).getD [])

end Moment

end Pushdown.Toml
