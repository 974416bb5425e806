import SqlDialect.Calendar
import SqlDialect.Node.Kind
import SqlDialect.Number.Decimal
import SqlDialect.Number.Binary64
import SqlDialect.SqlType

/-!
# Values

A `Value` is anything that a caller may put into a field of a node or bind to a parameter: nothing,
truth values, numbers, texts, bytes, dates and times, lists and records of values, types, and nodes
seen as data.  Fields keep the values they are given, so a flag may hold a text and a name may be a
number; `isTrue` is how a flag is read.
-/

namespace SqlDialect

/-- The three kinds of byte strings. -/
inductive ByteKind
  | bytes | byteArray | memoryView
  deriving DecidableEq, Repr

/-- A value. -/
inductive Value
  | null
  | bool (b : Bool)
  | int (n : Int)
  | float (x : Binary64)
  | text (s : String)
  | list (items : List Value)
  | tuple (items : List Value)
  | record (entries : List (String × Value))
  | bytes (kind : ByteKind) (data : List UInt8)
  | decimal (d : Decimal)
  | date (d : Date)
  | time (t : TimeOfDay)
  | dateTime (t : DateTime)
  | sqlType (t : SqlType)
  | hostType (t : HostType)
  /-- A node as data: its kind and its fields in order. -/
  | node (kind : NodeKind) (fields : List (String × Value))
  /-- A bare base: nothing but which object it is. -/
  | bare (kind : NodeKind) (serial : Nat)
  deriving Repr, Inhabited

namespace Value

/-- The truth value of a value: zeros, the empty texts and collections, and nothing are false. -/
def isTrue : Value → Bool
  | .null => false
  | .bool b => b
  | .int n => n != 0
  | .float x => x.isTrue
  | .text s => s != ""
  | .list items => !items.isEmpty
  | .tuple items => !items.isEmpty
  | .record entries => !entries.isEmpty
  | .bytes _ data => !data.isEmpty
  | .decimal d => d.isTrue
  | _ => true

/-- Whether there is nothing. -/
def isNull : Value → Bool
  | .null => true
  | _ => false

/-- A text, if the value is one; a SQL type is its own name. -/
def text? : Value → Option String
  | .text s => some s
  | .sqlType t => some t.sqlText
  | _ => none

/-- The characters of a text, each of them a text. -/
def characters (s : String) : List Value :=
  s.toList.map fun c => .text (String.ofList [c])

/-- The items that going through a value gives: the characters of a text, the items of a list, the
keys of a record, the numbers of a byte string, the members of the kind of SQL types. -/
def items? : Value → Option (List Value)
  | .text s => some (characters s)
  | .sqlType t => some (characters t.sqlText)
  | .list items => some items
  | .tuple items => some items
  | .record entries => some (entries.map fun e => .text e.1)
  | .bytes _ data => some (data.map fun b => .int b.toNat)
  | .hostType .sqlType => some (SqlType.all.map .sqlType)
  | _ => none

/-- The name of the type of a value, as messages show it. -/
def typeName : Value → String
  | .null => "NoneType"
  | .bool _ => "bool"
  | .int _ => "int"
  | .float _ => "float"
  | .text _ => "str"
  | .list _ => "list"
  | .tuple _ => "tuple"
  | .record _ => "dict"
  | .bytes .bytes _ => "bytes"
  | .bytes .byteArray _ => "bytearray"
  | .bytes .memoryView _ => "memoryview"
  | .decimal _ => "Decimal"
  | .date _ => "date"
  | .time _ => "time"
  | .dateTime _ => "datetime"
  | .sqlType _ => "SQLType"
  | .hostType .sqlType => "EnumType"
  | .hostType _ => "type"
  | .node kind _ => kind.name
  | .bare kind _ => kind.name

end Value

end SqlDialect
