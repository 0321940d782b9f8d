import Pushdown.Capability.Builder

/-!
# `Postgres.Capabilities` — what PostgreSQL is asked to do

## Contents

* `Capabilities.withheld` — scalar functions that are not pushed down.
* `Capabilities.postgres` — all five families.
-/

namespace Pushdown

namespace Capabilities

/-- Scalar functions that are not pushed down: PostgreSQL lacks them, or would answer differently. -/
def withheld : List ScalarFunction :=
  [.secondsBetween, .minutesBetween, .hoursBetween, .daysBetween, .monthsBetween, .yearsBetween, .round,
   .second, .colognePhonetic, .concat, .instr, .posixTime, .dump, .editDistance, .insert, .locate,
   .regexpInstr, .regexpSubstr, .soundex, .space, .unicode, .unicodechr, .dbtimezone, .fromPosixTime,
   .hour, .sessiontimezone, .isNumber, .isBoolean, .isDate, .isDsinterval, .isYminterval, .isTimestamp,
   .toChar, .toDate, .toNumber, .toTimestamp, .bitAnd, .bitCheck, .bitLrotate, .bitLshift, .bitNot,
   .bitOr, .bitRrotate, .bitRshift, .bitSet, .bitToNum, .bitXor, .hashtypeMd5, .hashSha1, .hashtypeSha1,
   .hashSha256, .hashtypeSha256, .hashSha512, .hashtypeSha512, .hashTiger, .hashtypeTiger, .nullifzero,
   .zeroifnull, .minScale, .numtoyminterval, .jsonValue, .toDsinterval, .convertTz, .numtodsinterval,
   .toYminterval, .cast, .sysGuid, .systimestamp, .currentStatement, .currentUser, .sysdate,
   .currentSession]

/-- Parts of a query. -/
def postgresMain : List MainCapability :=
  [.selectlistProjection, .selectlistExpressions, .filterExpressions, .aggregateSingleGroup,
   .aggregateGroupByColumn, .aggregateGroupByExpression, .aggregateGroupByTuple, .aggregateHaving,
   .orderByColumn, .orderByExpression, .limit, .limitWithOffset, .join, .joinTypeInner,
   .joinTypeLeftOuter, .joinTypeRightOuter, .joinTypeFullOuter, .joinConditionEqui]

/-- Conditions. -/
def postgresPredicates : List PredicateCapability :=
  [.and, .or, .not, .equal, .notEqual, .less, .lessEqual, .like, .likeEscape, .between, .regexpLike,
   .inConstList, .isNull, .isNotNull]

/-- Constants. -/
def postgresLiterals : List LiteralCapability :=
  [.bool, .null, .date, .timestamp, .timestampUtc, .double, .exactNumeric, .string]

/-- Aggregate functions. -/
def postgresAggregates : List AggregateCapability :=
  [.count, .countStar, .countDistinct, .sum, .sumDistinct, .min, .max, .avg, .avgDistinct, .median,
   .firstValue, .lastValue, .stddev, .stddevDistinct, .stddevPop, .stddevPopDistinct, .stddevSamp,
   .stddevSampDistinct, .variance, .varianceDistinct, .varPop, .varPopDistinct, .varSamp,
   .varSampDistinct, .groupConcat]

/-- Scalar functions: all that are neither geospatial nor withheld. -/
def postgresScalars : List ScalarFunction :=
  (Enumeration.all (α := ScalarFunction)).filter fun f => !f.isGeospatial && !withheld.contains f

/-- What PostgreSQL is asked to do. -/
def postgres : Capabilities :=
  build [.main postgresMain, .predicates postgresPredicates, .literals postgresLiterals,
    .aggregates postgresAggregates, .scalars postgresScalars]

end Capabilities

end Pushdown
