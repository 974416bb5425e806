import SqlDialect.Text.CaseMap
import SqlDialect.Value.Conversion

/-!
# Parameters

A value that is bound to a statement has a SQL type, found by `classify`: integers take the
narrowest width that holds them, and a date and time with an offset is an instant.  `convert` gives
the form in which the driver of a backend takes it.  SQLite stores truth values as integers, exact
numbers as texts and dates and times in ISO 8601, instants in UTC; PostgreSQL takes most values as
they are.
-/

namespace SqlDialect

/-- The two kinds of databases that statements run on. -/
inductive Backend
  | sqlite | postgres
  deriving DecidableEq, Repr

/-- The SQL type that a host type is bound with. -/
def HostType.sqlTypeFor? : HostType → Option SqlType
  | .bool => some .boolean
  | .int => some .bigint
  | .float => some .double
  | .str => some .text
  | .sqlType => some .text
  | .bytes => some .blob
  | .byteArray => some .blob
  | .memoryView => some .blob
  | .decimal => some .numeric
  | .dateTime => some .timestamp
  | .date => some .date
  | .time => some .time
  | _ => Option.none

namespace Parameter

/-- The SQL type that is declared by a type, by a host type, or by the name of one in any letter
case. -/
def declaredType? : Value → Option SqlType
  | .sqlType t => some t
  | .text s => SqlType.ofText? (Text.lower s)
  | .hostType t => t.sqlTypeFor?
  | _ => Option.none

/-- The narrowest integer type that holds an integer. -/
def integerType (n : Int) : SqlType :=
  if -32768 ≤ n ∧ n < 32768 then .smallint
  else if -2147483648 ≤ n ∧ n < 2147483648 then .integer
  else .bigint

/-- The SQL type of a value, when it has one. -/
def classify : Value → Option SqlType
  | .bool _ => some .boolean
  | .int n => some (integerType n)
  | .float _ => some .double
  | .text _ => some .text
  | .sqlType _ => some .text
  | .bytes _ _ => some .blob
  | .decimal _ => some .numeric
  | .date _ => some .date
  | .time _ => some .time
  | .dateTime t => some (if t.zone.offset?.isSome then .timestampTz else .timestamp)
  | _ => Option.none

/-- The driver's form of a value of a SQL type. -/
def convert (backend : Backend) (v : Value) (type? : Option SqlType) :
    Except ConversionError Value :=
  match backend, type? with
  | _, some .blob => v.toBytes.map (.bytes .bytes)
  | .sqlite, some .boolean => v.toInteger.map .int
  | .sqlite, some .numeric => v.writeText.map .text
  | .sqlite, some .timestampTz => v.toUtcText.map .text
  | .sqlite, some .date => v.toIsoText.map .text
  | .sqlite, some .time => v.toIsoText.map .text
  | .sqlite, some .timestamp => v.toIsoText.map .text
  | _, _ => .ok v

end Parameter

end SqlDialect
