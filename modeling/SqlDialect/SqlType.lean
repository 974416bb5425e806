/-!
# SQL parameter types

`SqlType` is the type a parameter is bound with, `HostType` the kind of value that a caller holds.
Each has its text; `SqlType.ofText?` reads the text back.
-/

namespace SqlDialect

/-- The type that a parameter is bound with. -/
inductive SqlType
  | boolean | smallint | integer | bigint | real | double | text | blob | numeric | date | time
  | timestamp | timestampTz
  deriving DecidableEq, Repr

namespace SqlType

/-- Every SQL type. -/
def all : List SqlType :=
  [.boolean, .smallint, .integer, .bigint, .real, .double, .text, .blob, .numeric, .date, .time,
    .timestamp, .timestampTz]

/-- The SQL name of a type. -/
def sqlText : SqlType → String
  | .boolean => "boolean"
  | .smallint => "smallint"
  | .integer => "integer"
  | .bigint => "bigint"
  | .real => "real"
  | .double => "double precision"
  | .text => "text"
  | .blob => "blob"
  | .numeric => "numeric"
  | .date => "date"
  | .time => "time"
  | .timestamp => "timestamp"
  | .timestampTz => "timestamp with time zone"

/-- The symbol that names a type in messages. -/
def symbol : SqlType → String
  | .boolean => "BOOLEAN"
  | .smallint => "SMALLINT"
  | .integer => "INTEGER"
  | .bigint => "BIGINT"
  | .real => "REAL"
  | .double => "DOUBLE"
  | .text => "TEXT"
  | .blob => "BLOB"
  | .numeric => "NUMERIC"
  | .date => "DATE"
  | .time => "TIME"
  | .timestamp => "TIMESTAMP"
  | .timestampTz => "TIMESTAMPTZ"

/-- The type of a SQL name. -/
def ofText? (s : String) : Option SqlType :=
  all.find? fun t => t.sqlText = s

theorem ofText?_sqlText (t : SqlType) : ofText? t.sqlText = some t := by
  cases t <;> rfl

end SqlType

/-- The kind of value that a caller holds. -/
inductive HostType
  | bool | int | float | str | bytes | byteArray | memoryView | decimal | dateTime | date | time
  | list | record | object | none | sqlType
  deriving DecidableEq, Repr

namespace HostType

/-- Every host type. -/
def all : List HostType :=
  [.bool, .int, .float, .str, .bytes, .byteArray, .memoryView, .decimal, .dateTime, .date, .time,
    .list, .record, .object, .none, .sqlType]

/-- The name of a host type. -/
def name : HostType → String
  | .bool => "bool"
  | .int => "int"
  | .float => "float"
  | .str => "str"
  | .bytes => "bytes"
  | .byteArray => "bytearray"
  | .memoryView => "memoryview"
  | .decimal => "Decimal"
  | .dateTime => "datetime"
  | .date => "date"
  | .time => "time"
  | .list => "list"
  | .record => "dict"
  | .object => "object"
  | .none => "NoneType"
  | .sqlType => "SQLType"

/-- The host type of a name. -/
def ofName? (s : String) : Option HostType :=
  all.find? fun t => t.name = s

/-- How a message shows a host type. -/
def shown : HostType → String
  | .decimal => "<class 'decimal.Decimal'>"
  | .dateTime => "<class 'datetime.datetime'>"
  | .date => "<class 'datetime.date'>"
  | .time => "<class 'datetime.time'>"
  | .sqlType => "<enum 'SQLType'>"
  | t => "<class '" ++ t.name ++ "'>"

end HostType

end SqlDialect
