import Pushdown.Enumeration

/-!
# `Function.Scalar` — the scalar functions a query may call

## Contents

* `ScalarFunction` — the functions, grouped by what they work on.
* `ScalarFunction.isGeospatial` — the functions on geometries.
-/

namespace Pushdown

/-- A scalar function of the query language. -/
inductive ScalarFunction
  -- numeric
  | abs
  | acos
  | asin
  | atan
  | atan2
  | ceil
  | cos
  | cosh
  | cot
  | degrees
  | div
  | exp
  | floor
  | ln
  | log
  | minScale
  | mod
  | power
  | radians
  | rand
  | round
  | sign
  | sin
  | sinh
  | sqrt
  | tan
  | tanh
  | trunc
  -- string
  | ascii
  | bitLength
  | chr
  | colognePhonetic
  | concat
  | dump
  | editDistance
  | initcap
  | insert
  | instr
  | length
  | locate
  | lower
  | lpad
  | ltrim
  | octetLength
  | regexpInstr
  | regexpReplace
  | regexpSubstr
  | repeat
  | replace
  | reverse
  | right
  | rpad
  | rtrim
  | soundex
  | space
  | substr
  | translate
  | trim
  | unicode
  | unicodechr
  | upper
  -- date and time
  | addDays
  | addHours
  | addMinutes
  | addMonths
  | addSeconds
  | addWeeks
  | addYears
  | convertTz
  | currentDate
  | currentTimestamp
  | dateTrunc
  | day
  | daysBetween
  | dbtimezone
  | extract
  | fromPosixTime
  | hour
  | hoursBetween
  | localtimestamp
  | minute
  | minutesBetween
  | month
  | monthsBetween
  | numtodsinterval
  | numtoyminterval
  | posixTime
  | second
  | secondsBetween
  | sessiontimezone
  | sysdate
  | systimestamp
  | week
  | year
  | yearsBetween
  -- geospatial
  | stX
  | stY
  | stEndpoint
  | stIsclosed
  | stIsring
  | stLength
  | stNumpoints
  | stPointn
  | stStartpoint
  | stArea
  | stExteriorring
  | stInteriorringn
  | stNuminteriorrings
  | stGeometryn
  | stNumgeometries
  | stBoundary
  | stBuffer
  | stCentroid
  | stContains
  | stConvexhull
  | stCrosses
  | stDifference
  | stDimension
  | stDisjoint
  | stDistance
  | stEnvelope
  | stEquals
  | stForce2d
  | stGeometrytype
  | stIntersection
  | stIntersects
  | stIsempty
  | stIssimple
  | stOverlaps
  | stSetsrid
  | stSymdifference
  | stTouches
  | stTransform
  | stUnion
  | stWithin
  -- conversion
  | cast
  | isNumber
  | isBoolean
  | isDate
  | isDsinterval
  | isYminterval
  | isTimestamp
  | toChar
  | toDate
  | toDsinterval
  | toYminterval
  | toNumber
  | toTimestamp
  -- bitwise
  | bitAnd
  | bitCheck
  | bitLrotate
  | bitLshift
  | bitNot
  | bitOr
  | bitRrotate
  | bitRshift
  | bitSet
  | bitToNum
  | bitXor
  -- other
  | case
  | currentSchema
  | currentSession
  | currentStatement
  | currentUser
  | greatest
  | hashMd5
  | hashtypeMd5
  | hashSha1
  | hashtypeSha1
  | hashSha256
  | hashtypeSha256
  | hashSha512
  | hashtypeSha512
  | hashTiger
  | hashtypeTiger
  | jsonValue
  | least
  | nullifzero
  | sysGuid
  | zeroifnull
  -- operators
  | neg
  | add
  | sub
  | mult
  | floatDiv
deriving DecidableEq, Repr

namespace ScalarFunction

/-- The members in declared order. -/
def all : List ScalarFunction :=
  [.abs, .acos, .asin, .atan, .atan2, .ceil, .cos, .cosh, .cot, .degrees, .div, .exp, .floor, .ln, .log,
   .minScale, .mod, .power, .radians, .rand, .round, .sign, .sin, .sinh, .sqrt, .tan, .tanh, .trunc,
   .ascii, .bitLength, .chr, .colognePhonetic, .concat, .dump, .editDistance, .initcap, .insert, .instr,
   .length, .locate, .lower, .lpad, .ltrim, .octetLength, .regexpInstr, .regexpReplace, .regexpSubstr,
   .repeat, .replace, .reverse, .right, .rpad, .rtrim, .soundex, .space, .substr, .translate, .trim,
   .unicode, .unicodechr, .upper, .addDays, .addHours, .addMinutes, .addMonths, .addSeconds, .addWeeks,
   .addYears, .convertTz, .currentDate, .currentTimestamp, .dateTrunc, .day, .daysBetween, .dbtimezone,
   .extract, .fromPosixTime, .hour, .hoursBetween, .localtimestamp, .minute, .minutesBetween, .month,
   .monthsBetween, .numtodsinterval, .numtoyminterval, .posixTime, .second, .secondsBetween,
   .sessiontimezone, .sysdate, .systimestamp, .week, .year, .yearsBetween, .stX, .stY, .stEndpoint,
   .stIsclosed, .stIsring, .stLength, .stNumpoints, .stPointn, .stStartpoint, .stArea, .stExteriorring,
   .stInteriorringn, .stNuminteriorrings, .stGeometryn, .stNumgeometries, .stBoundary, .stBuffer,
   .stCentroid, .stContains, .stConvexhull, .stCrosses, .stDifference, .stDimension, .stDisjoint,
   .stDistance, .stEnvelope, .stEquals, .stForce2d, .stGeometrytype, .stIntersection, .stIntersects,
   .stIsempty, .stIssimple, .stOverlaps, .stSetsrid, .stSymdifference, .stTouches, .stTransform, .stUnion,
   .stWithin, .cast, .isNumber, .isBoolean, .isDate, .isDsinterval, .isYminterval, .isTimestamp, .toChar,
   .toDate, .toDsinterval, .toYminterval, .toNumber, .toTimestamp, .bitAnd, .bitCheck, .bitLrotate,
   .bitLshift, .bitNot, .bitOr, .bitRrotate, .bitRshift, .bitSet, .bitToNum, .bitXor, .case,
   .currentSchema, .currentSession, .currentStatement, .currentUser, .greatest, .hashMd5, .hashtypeMd5,
   .hashSha1, .hashtypeSha1, .hashSha256, .hashtypeSha256, .hashSha512, .hashtypeSha512, .hashTiger,
   .hashtypeTiger, .jsonValue, .least, .nullifzero, .sysGuid, .zeroifnull, .neg, .add, .sub, .mult,
   .floatDiv]

/-- The name of a member. -/
def name : ScalarFunction → String
  | .abs => "ABS"
  | .acos => "ACOS"
  | .asin => "ASIN"
  | .atan => "ATAN"
  | .atan2 => "ATAN2"
  | .ceil => "CEIL"
  | .cos => "COS"
  | .cosh => "COSH"
  | .cot => "COT"
  | .degrees => "DEGREES"
  | .div => "DIV"
  | .exp => "EXP"
  | .floor => "FLOOR"
  | .ln => "LN"
  | .log => "LOG"
  | .minScale => "MIN_SCALE"
  | .mod => "MOD"
  | .power => "POWER"
  | .radians => "RADIANS"
  | .rand => "RAND"
  | .round => "ROUND"
  | .sign => "SIGN"
  | .sin => "SIN"
  | .sinh => "SINH"
  | .sqrt => "SQRT"
  | .tan => "TAN"
  | .tanh => "TANH"
  | .trunc => "TRUNC"
  | .ascii => "ASCII"
  | .bitLength => "BIT_LENGTH"
  | .chr => "CHR"
  | .colognePhonetic => "COLOGNE_PHONETIC"
  | .concat => "CONCAT"
  | .dump => "DUMP"
  | .editDistance => "EDIT_DISTANCE"
  | .initcap => "INITCAP"
  | .insert => "INSERT"
  | .instr => "INSTR"
  | .length => "LENGTH"
  | .locate => "LOCATE"
  | .lower => "LOWER"
  | .lpad => "LPAD"
  | .ltrim => "LTRIM"
  | .octetLength => "OCTET_LENGTH"
  | .regexpInstr => "REGEXP_INSTR"
  | .regexpReplace => "REGEXP_REPLACE"
  | .regexpSubstr => "REGEXP_SUBSTR"
  | .repeat => "REPEAT"
  | .replace => "REPLACE"
  | .reverse => "REVERSE"
  | .right => "RIGHT"
  | .rpad => "RPAD"
  | .rtrim => "RTRIM"
  | .soundex => "SOUNDEX"
  | .space => "SPACE"
  | .substr => "SUBSTR"
  | .translate => "TRANSLATE"
  | .trim => "TRIM"
  | .unicode => "UNICODE"
  | .unicodechr => "UNICODECHR"
  | .upper => "UPPER"
  | .addDays => "ADD_DAYS"
  | .addHours => "ADD_HOURS"
  | .addMinutes => "ADD_MINUTES"
  | .addMonths => "ADD_MONTHS"
  | .addSeconds => "ADD_SECONDS"
  | .addWeeks => "ADD_WEEKS"
  | .addYears => "ADD_YEARS"
  | .convertTz => "CONVERT_TZ"
  | .currentDate => "CURRENT_DATE"
  | .currentTimestamp => "CURRENT_TIMESTAMP"
  | .dateTrunc => "DATE_TRUNC"
  | .day => "DAY"
  | .daysBetween => "DAYS_BETWEEN"
  | .dbtimezone => "DBTIMEZONE"
  | .extract => "EXTRACT"
  | .fromPosixTime => "FROM_POSIX_TIME"
  | .hour => "HOUR"
  | .hoursBetween => "HOURS_BETWEEN"
  | .localtimestamp => "LOCALTIMESTAMP"
  | .minute => "MINUTE"
  | .minutesBetween => "MINUTES_BETWEEN"
  | .month => "MONTH"
  | .monthsBetween => "MONTHS_BETWEEN"
  | .numtodsinterval => "NUMTODSINTERVAL"
  | .numtoyminterval => "NUMTOYMINTERVAL"
  | .posixTime => "POSIX_TIME"
  | .second => "SECOND"
  | .secondsBetween => "SECONDS_BETWEEN"
  | .sessiontimezone => "SESSIONTIMEZONE"
  | .sysdate => "SYSDATE"
  | .systimestamp => "SYSTIMESTAMP"
  | .week => "WEEK"
  | .year => "YEAR"
  | .yearsBetween => "YEARS_BETWEEN"
  | .stX => "ST_X"
  | .stY => "ST_Y"
  | .stEndpoint => "ST_ENDPOINT"
  | .stIsclosed => "ST_ISCLOSED"
  | .stIsring => "ST_ISRING"
  | .stLength => "ST_LENGTH"
  | .stNumpoints => "ST_NUMPOINTS"
  | .stPointn => "ST_POINTN"
  | .stStartpoint => "ST_STARTPOINT"
  | .stArea => "ST_AREA"
  | .stExteriorring => "ST_EXTERIORRING"
  | .stInteriorringn => "ST_INTERIORRINGN"
  | .stNuminteriorrings => "ST_NUMINTERIORRINGS"
  | .stGeometryn => "ST_GEOMETRYN"
  | .stNumgeometries => "ST_NUMGEOMETRIES"
  | .stBoundary => "ST_BOUNDARY"
  | .stBuffer => "ST_BUFFER"
  | .stCentroid => "ST_CENTROID"
  | .stContains => "ST_CONTAINS"
  | .stConvexhull => "ST_CONVEXHULL"
  | .stCrosses => "ST_CROSSES"
  | .stDifference => "ST_DIFFERENCE"
  | .stDimension => "ST_DIMENSION"
  | .stDisjoint => "ST_DISJOINT"
  | .stDistance => "ST_DISTANCE"
  | .stEnvelope => "ST_ENVELOPE"
  | .stEquals => "ST_EQUALS"
  | .stForce2d => "ST_FORCE2D"
  | .stGeometrytype => "ST_GEOMETRYTYPE"
  | .stIntersection => "ST_INTERSECTION"
  | .stIntersects => "ST_INTERSECTS"
  | .stIsempty => "ST_ISEMPTY"
  | .stIssimple => "ST_ISSIMPLE"
  | .stOverlaps => "ST_OVERLAPS"
  | .stSetsrid => "ST_SETSRID"
  | .stSymdifference => "ST_SYMDIFFERENCE"
  | .stTouches => "ST_TOUCHES"
  | .stTransform => "ST_TRANSFORM"
  | .stUnion => "ST_UNION"
  | .stWithin => "ST_WITHIN"
  | .cast => "CAST"
  | .isNumber => "IS_NUMBER"
  | .isBoolean => "IS_BOOLEAN"
  | .isDate => "IS_DATE"
  | .isDsinterval => "IS_DSINTERVAL"
  | .isYminterval => "IS_YMINTERVAL"
  | .isTimestamp => "IS_TIMESTAMP"
  | .toChar => "TO_CHAR"
  | .toDate => "TO_DATE"
  | .toDsinterval => "TO_DSINTERVAL"
  | .toYminterval => "TO_YMINTERVAL"
  | .toNumber => "TO_NUMBER"
  | .toTimestamp => "TO_TIMESTAMP"
  | .bitAnd => "BIT_AND"
  | .bitCheck => "BIT_CHECK"
  | .bitLrotate => "BIT_LROTATE"
  | .bitLshift => "BIT_LSHIFT"
  | .bitNot => "BIT_NOT"
  | .bitOr => "BIT_OR"
  | .bitRrotate => "BIT_RROTATE"
  | .bitRshift => "BIT_RSHIFT"
  | .bitSet => "BIT_SET"
  | .bitToNum => "BIT_TO_NUM"
  | .bitXor => "BIT_XOR"
  | .case => "CASE"
  | .currentSchema => "CURRENT_SCHEMA"
  | .currentSession => "CURRENT_SESSION"
  | .currentStatement => "CURRENT_STATEMENT"
  | .currentUser => "CURRENT_USER"
  | .greatest => "GREATEST"
  | .hashMd5 => "HASH_MD5"
  | .hashtypeMd5 => "HASHTYPE_MD5"
  | .hashSha1 => "HASH_SHA1"
  | .hashtypeSha1 => "HASHTYPE_SHA1"
  | .hashSha256 => "HASH_SHA256"
  | .hashtypeSha256 => "HASHTYPE_SHA256"
  | .hashSha512 => "HASH_SHA512"
  | .hashtypeSha512 => "HASHTYPE_SHA512"
  | .hashTiger => "HASH_TIGER"
  | .hashtypeTiger => "HASHTYPE_TIGER"
  | .jsonValue => "JSON_VALUE"
  | .least => "LEAST"
  | .nullifzero => "NULLIFZERO"
  | .sysGuid => "SYS_GUID"
  | .zeroifnull => "ZEROIFNULL"
  | .neg => "NEG"
  | .add => "ADD"
  | .sub => "SUB"
  | .mult => "MULT"
  | .floatDiv => "FLOAT_DIV"

end ScalarFunction

instance : Enumeration ScalarFunction where
  typeName := "ScalarFunction"
  all := ScalarFunction.all
  name := ScalarFunction.name

namespace ScalarFunction

/-- A function on geometries; their names share a beginning. -/
def isGeospatial (f : ScalarFunction) : Bool := "ST_".toList.isPrefixOf f.name.toList

end ScalarFunction

end Pushdown
