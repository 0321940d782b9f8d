import Pushdown.Generation.Rule

/-!
# `Postgres.Rules` — scalar functions that PostgreSQL writes in its own way

## Contents

* `addInterval`, `datePart`, `epoch` — the three kinds of expression.
* `FunctionRules.postgresEntries`, `FunctionRules.postgres` — all rules.
-/

namespace Pushdown

/-- A date and an amount of a unit: `date + make_interval(unit => amount)`. -/
def addInterval (function : ScalarFunction) (unit : String) : Rule :=
  .transform fun arguments => do
    let date ← argument function arguments 0 2
    let amount ← argument function arguments 1 2
    return .binary .plus date (.callNamed "make_interval" unit amount)

/-- A part of a date: `DATE_PART('UNIT',date)`. -/
def datePart (function : ScalarFunction) : Rule :=
  .transform fun arguments => do
    let date ← argument function arguments 0 1
    return .datePart (Enumeration.name function) date

/-- Seconds since the epoch: `EXTRACT(EPOCH FROM date)`. -/
def epoch (function : ScalarFunction) : Rule :=
  .transform fun arguments => do
    let date ← argument function arguments 0 1
    return .extract "EPOCH" date

namespace FunctionRules

/-- The functions that add to a date, with the unit of what they add. -/
def intervals : List (ScalarFunction × String) :=
  [(.addDays, "days"), (.addHours, "hours"), (.addMinutes, "mins"), (.addSeconds, "secs"),
   (.addWeeks, "weeks"), (.addMonths, "months"), (.addYears, "years")]

/-- The functions that take a part of a date. -/
def dateParts : List ScalarFunction := [.second, .minute, .day, .week, .month, .year]

/-- The functions with another name. -/
def renamed : List (ScalarFunction × String) :=
  [(.substr, "SUBSTRING"), (.hashMd5, "MD5"), (.rand, "RANDOM")]

/-- The rules of PostgreSQL, one for each function. -/
def postgresEntries : List (ScalarFunction × Rule) :=
  renamed.map (fun (f, name) => (f, .rename name)) ++
    intervals.map (fun (f, unit) => (f, addInterval f unit)) ++
    dateParts.map (fun f => (f, datePart f)) ++
    [(.posixTime, epoch .posixTime)]

/-- The rules of PostgreSQL. -/
def postgres : FunctionRules := empty.insertMany postgresEntries

end FunctionRules

end Pushdown
