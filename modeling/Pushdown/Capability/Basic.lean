import Pushdown.Function.Aggregate

/-!
# `Capability.Basic` — what a dialect can be asked to do

A capability is a name the federation engine knows. There are four families of them; a fifth family, the
scalar functions, is named by the functions themselves.

## Contents

* `MainCapability`, `PredicateCapability`, `LiteralCapability`, `AggregateCapability` — the families.
* `AggregateCapability.requiredFor` — the capability that a call of an aggregate needs.
-/

namespace Pushdown

/-- Parts of a query that can be pushed down. -/
inductive MainCapability
  | selectlistProjection
  | selectlistExpressions
  | filterExpressions
  | aggregateSingleGroup
  | aggregateGroupByColumn
  | aggregateGroupByExpression
  | aggregateGroupByTuple
  | aggregateHaving
  | orderByColumn
  | orderByExpression
  | limit
  | limitWithOffset
  | join
  | joinTypeInner
  | joinTypeLeftOuter
  | joinTypeRightOuter
  | joinTypeFullOuter
  | joinConditionEqui
  | joinConditionAll
deriving DecidableEq, Repr

namespace MainCapability

/-- The members in declared order. -/
def all : List MainCapability :=
  [.selectlistProjection, .selectlistExpressions, .filterExpressions, .aggregateSingleGroup,
   .aggregateGroupByColumn, .aggregateGroupByExpression, .aggregateGroupByTuple, .aggregateHaving,
   .orderByColumn, .orderByExpression, .limit, .limitWithOffset, .join, .joinTypeInner,
   .joinTypeLeftOuter, .joinTypeRightOuter, .joinTypeFullOuter, .joinConditionEqui, .joinConditionAll]

/-- The name of a member. -/
def name : MainCapability → String
  | .selectlistProjection => "SELECTLIST_PROJECTION"
  | .selectlistExpressions => "SELECTLIST_EXPRESSIONS"
  | .filterExpressions => "FILTER_EXPRESSIONS"
  | .aggregateSingleGroup => "AGGREGATE_SINGLE_GROUP"
  | .aggregateGroupByColumn => "AGGREGATE_GROUP_BY_COLUMN"
  | .aggregateGroupByExpression => "AGGREGATE_GROUP_BY_EXPRESSION"
  | .aggregateGroupByTuple => "AGGREGATE_GROUP_BY_TUPLE"
  | .aggregateHaving => "AGGREGATE_HAVING"
  | .orderByColumn => "ORDER_BY_COLUMN"
  | .orderByExpression => "ORDER_BY_EXPRESSION"
  | .limit => "LIMIT"
  | .limitWithOffset => "LIMIT_WITH_OFFSET"
  | .join => "JOIN"
  | .joinTypeInner => "JOIN_TYPE_INNER"
  | .joinTypeLeftOuter => "JOIN_TYPE_LEFT_OUTER"
  | .joinTypeRightOuter => "JOIN_TYPE_RIGHT_OUTER"
  | .joinTypeFullOuter => "JOIN_TYPE_FULL_OUTER"
  | .joinConditionEqui => "JOIN_CONDITION_EQUI"
  | .joinConditionAll => "JOIN_CONDITION_ALL"

end MainCapability

instance : Enumeration MainCapability where
  typeName := "MainCapability"
  all := MainCapability.all
  name := MainCapability.name

/-- Predicates that can be pushed down. -/
inductive PredicateCapability
  | and
  | or
  | not
  | equal
  | notEqual
  | less
  | lessEqual
  | like
  | likeEscape
  | regexpLike
  | between
  | inConstList
  | isNull
  | isNotNull
  | isJson
  | isNotJson
deriving DecidableEq, Repr

namespace PredicateCapability

/-- The members in declared order. -/
def all : List PredicateCapability :=
  [.and, .or, .not, .equal, .notEqual, .less, .lessEqual, .like, .likeEscape, .regexpLike, .between,
   .inConstList, .isNull, .isNotNull, .isJson, .isNotJson]

/-- The name of a member. -/
def name : PredicateCapability → String
  | .and => "AND"
  | .or => "OR"
  | .not => "NOT"
  | .equal => "EQUAL"
  | .notEqual => "NOTEQUAL"
  | .less => "LESS"
  | .lessEqual => "LESSEQUAL"
  | .like => "LIKE"
  | .likeEscape => "LIKE_ESCAPE"
  | .regexpLike => "REGEXP_LIKE"
  | .between => "BETWEEN"
  | .inConstList => "IN_CONSTLIST"
  | .isNull => "IS_NULL"
  | .isNotNull => "IS_NOT_NULL"
  | .isJson => "IS_JSON"
  | .isNotJson => "IS_NOT_JSON"

end PredicateCapability

instance : Enumeration PredicateCapability where
  typeName := "PredicateCapability"
  all := PredicateCapability.all
  name := PredicateCapability.name

/-- Kinds of literals that can be pushed down. -/
inductive LiteralCapability
  | null
  | bool
  | date
  | timestamp
  | timestampUtc
  | double
  | exactNumeric
  | string
  | interval
deriving DecidableEq, Repr

namespace LiteralCapability

/-- The members in declared order. -/
def all : List LiteralCapability :=
  [.null, .bool, .date, .timestamp, .timestampUtc, .double, .exactNumeric, .string, .interval]

/-- The name of a member. -/
def name : LiteralCapability → String
  | .null => "NULL"
  | .bool => "BOOL"
  | .date => "DATE"
  | .timestamp => "TIMESTAMP"
  | .timestampUtc => "TIMESTAMP_UTC"
  | .double => "DOUBLE"
  | .exactNumeric => "EXACTNUMERIC"
  | .string => "STRING"
  | .interval => "INTERVAL"

end LiteralCapability

instance : Enumeration LiteralCapability where
  typeName := "LiteralCapability"
  all := LiteralCapability.all
  name := LiteralCapability.name

/-- Calls of aggregate functions that can be pushed down. -/
inductive AggregateCapability
  | count
  | countStar
  | countDistinct
  | countTuple
  | sum
  | sumDistinct
  | min
  | max
  | avg
  | avgDistinct
  | median
  | firstValue
  | lastValue
  | stddev
  | stddevDistinct
  | stddevPop
  | stddevPopDistinct
  | stddevSamp
  | stddevSampDistinct
  | variance
  | varianceDistinct
  | varPop
  | varPopDistinct
  | varSamp
  | varSampDistinct
  | groupConcat
  | approximateCountDistinct
  | every
  | someOf
deriving DecidableEq, Repr

namespace AggregateCapability

/-- The members in declared order. -/
def all : List AggregateCapability :=
  [.count, .countStar, .countDistinct, .countTuple, .sum, .sumDistinct, .min, .max, .avg, .avgDistinct,
   .median, .firstValue, .lastValue, .stddev, .stddevDistinct, .stddevPop, .stddevPopDistinct,
   .stddevSamp, .stddevSampDistinct, .variance, .varianceDistinct, .varPop, .varPopDistinct, .varSamp,
   .varSampDistinct, .groupConcat, .approximateCountDistinct, .every, .someOf]

/-- The name of a member. -/
def name : AggregateCapability → String
  | .count => "COUNT"
  | .countStar => "COUNT_STAR"
  | .countDistinct => "COUNT_DISTINCT"
  | .countTuple => "COUNT_TUPLE"
  | .sum => "SUM"
  | .sumDistinct => "SUM_DISTINCT"
  | .min => "MIN"
  | .max => "MAX"
  | .avg => "AVG"
  | .avgDistinct => "AVG_DISTINCT"
  | .median => "MEDIAN"
  | .firstValue => "FIRST_VALUE"
  | .lastValue => "LAST_VALUE"
  | .stddev => "STDDEV"
  | .stddevDistinct => "STDDEV_DISTINCT"
  | .stddevPop => "STDDEV_POP"
  | .stddevPopDistinct => "STDDEV_POP_DISTINCT"
  | .stddevSamp => "STDDEV_SAMP"
  | .stddevSampDistinct => "STDDEV_SAMP_DISTINCT"
  | .variance => "VARIANCE"
  | .varianceDistinct => "VARIANCE_DISTINCT"
  | .varPop => "VAR_POP"
  | .varPopDistinct => "VAR_POP_DISTINCT"
  | .varSamp => "VAR_SAMP"
  | .varSampDistinct => "VAR_SAMP_DISTINCT"
  | .groupConcat => "GROUP_CONCAT"
  | .approximateCountDistinct => "APPROXIMATE_COUNT_DISTINCT"
  | .every => "EVERY"
  | .someOf => "SOME"

end AggregateCapability

instance : Enumeration AggregateCapability where
  typeName := "AggregateFunctionCapability"
  all := AggregateCapability.all
  name := AggregateCapability.name

namespace AggregateCapability

/-- The capability that a call needs, if one covers it. -/
def requiredFor (f : AggregateFunction) (distinct : Bool) (arity : Nat) : Option AggregateCapability :=
  match f, distinct with
  | .count, false =>
    if arity = 0 then some .countStar else if 1 < arity then some .countTuple else some .count
  | .count, true => some .countDistinct
  | .sum, false => some .sum
  | .sum, true => some .sumDistinct
  | .min, _ => some .min
  | .max, _ => some .max
  | .avg, false => some .avg
  | .avg, true => some .avgDistinct
  | .median, false => some .median
  | .firstValue, false => some .firstValue
  | .lastValue, false => some .lastValue
  | .stddev, false => some .stddev
  | .stddev, true => some .stddevDistinct
  | .stddevPop, false => some .stddevPop
  | .stddevPop, true => some .stddevPopDistinct
  | .stddevSamp, false => some .stddevSamp
  | .stddevSamp, true => some .stddevSampDistinct
  | .variance, false => some .variance
  | .variance, true => some .varianceDistinct
  | .varPop, false => some .varPop
  | .varPop, true => some .varPopDistinct
  | .varSamp, false => some .varSamp
  | .varSamp, true => some .varSampDistinct
  | .approximateCountDistinct, _ => some .approximateCountDistinct
  | .every, false => some .every
  | .someOf, false => some .someOf
  | _, _ => none

end AggregateCapability

end Pushdown
