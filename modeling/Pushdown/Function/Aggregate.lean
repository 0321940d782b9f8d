import Pushdown.Enumeration

/-!
# `Function.Aggregate` — the aggregate functions a query may call

Concatenation of a group is not among them: it has arguments of its own and is a node of its own.
-/

namespace Pushdown

/-- An aggregate function of the query language. -/
inductive AggregateFunction
  | count
  | sum
  | min
  | max
  | avg
  | median
  | firstValue
  | lastValue
  | stddev
  | stddevPop
  | stddevSamp
  | variance
  | varPop
  | varSamp
  | approximateCountDistinct
  | every
  | someOf
deriving DecidableEq, Repr

namespace AggregateFunction

/-- The members in declared order. -/
def all : List AggregateFunction :=
  [.count, .sum, .min, .max, .avg, .median, .firstValue, .lastValue, .stddev, .stddevPop, .stddevSamp,
   .variance, .varPop, .varSamp, .approximateCountDistinct, .every, .someOf]

/-- The name of a member. -/
def name : AggregateFunction → String
  | .count => "COUNT"
  | .sum => "SUM"
  | .min => "MIN"
  | .max => "MAX"
  | .avg => "AVG"
  | .median => "MEDIAN"
  | .firstValue => "FIRST_VALUE"
  | .lastValue => "LAST_VALUE"
  | .stddev => "STDDEV"
  | .stddevPop => "STDDEV_POP"
  | .stddevSamp => "STDDEV_SAMP"
  | .variance => "VARIANCE"
  | .varPop => "VAR_POP"
  | .varSamp => "VAR_SAMP"
  | .approximateCountDistinct => "APPROXIMATE_COUNT_DISTINCT"
  | .every => "EVERY"
  | .someOf => "SOME"

end AggregateFunction

instance : Enumeration AggregateFunction where
  typeName := "AggregateFunction"
  all := AggregateFunction.all
  name := AggregateFunction.name

end Pushdown
