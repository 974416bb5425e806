import SqlDialect.Number.Shortest
import SqlDialect.Text.Numeral
import SqlDialect.Text.Quoted
import SqlDialect.Value.Basic

/-!
# The text of a value

A message writes a value in one of two ways: `Value.shown?` quotes it, so that a text stands between
quotes and a list between brackets, and `Value.toText?` writes texts, numbers and dates as they are.
Neither writes a value with an integer in it, however deep, that has more digits than a numeral may
have (`Text.decimalInt?`).
-/

namespace SqlDialect.Value

/-- A number of microseconds as a span of days, seconds and microseconds. -/
def shownSpan (microseconds : Int) : String :=
  let rest := Int.fmod microseconds microsecondsPerDay
  let parts := [("days=", Int.fdiv microseconds microsecondsPerDay),
    ("seconds=", Int.fdiv rest microsecondsPerSecond),
    ("microseconds=", Int.fmod rest microsecondsPerSecond)].filter fun part => part.2 ≠ 0
  "datetime.timedelta(" ++
    (if parts.isEmpty then "0"
      else String.intercalate ", " (parts.map fun part => part.1 ++ Text.decimalInt part.2)) ++ ")"

/-- The zone among the arguments of a shown time. -/
def shownZone : Zone → List String
  | .naive => []
  | .fixed offset =>
    ["tzinfo=datetime.timezone" ++
      (if offset = 0 then ".utc" else "(" ++ shownSpan offset ++ ")")]
  | .floating => ["tzinfo=floating"]

/-- A time of day as arguments: seconds and microseconds only where they are needed. -/
def shownClock (c : Clock) : List String :=
  [c.hour, c.minute].map Nat.repr ++
    (if c.second = 0 && c.microsecond = 0 then [] else [Nat.repr c.second]) ++
    (if c.microsecond = 0 then [] else [Nat.repr c.microsecond])

/-- A constructor and its arguments. -/
def shownCall (name : String) (arguments : List String) : String :=
  name ++ "(" ++ String.intercalate ", " arguments ++ ")"

/-- A date as arguments. -/
def shownDate (d : Date) : List String :=
  [d.year, d.month, d.day].map Nat.repr

/-- A SQL type as a message quotes it. -/
def shownSqlType (t : SqlType) : String :=
  "<SQLType." ++ t.symbol ++ ": " ++ Text.quoted t.sqlText ++ ">"

mutual

/-- A value as a message quotes it, unless there is an integer of too many digits in it. -/
def shown? : Value → Option String
  | .null => some "None"
  | .bool b => some (if b then "True" else "False")
  | .int n => Text.decimalInt? n
  | .float x => some x.text
  | .text s => some (Text.quoted s)
  | .list items =>
    (shownItems? items).map fun parts => "[" ++ String.intercalate ", " parts ++ "]"
  | .tuple [item] => (shown? item).map fun part => "(" ++ part ++ ",)"
  | .tuple items => (shownItems? items).map (shownCall "")
  | .record entries =>
    (shownEntries? entries).map fun parts => "\x7b" ++ String.intercalate ", " parts ++ "\x7d"
  | .bytes .bytes data => some (Text.quotedBytes data)
  | .bytes .byteArray data => some ("bytearray(" ++ Text.quotedBytes data ++ ")")
  | .bytes .memoryView _ => some "<memory>"
  | .decimal d => some ("Decimal('" ++ d.text ++ "')")
  | .date d => some (shownCall "datetime.date" (shownDate d))
  | .time t => some (shownCall "datetime.time" (shownClock t.clock ++ shownZone t.zone))
  | .dateTime t =>
    some (shownCall "datetime.datetime"
      (shownDate t.date ++ shownClock t.clock ++ shownZone t.zone))
  | .sqlType t => some (shownSqlType t)
  | .hostType t => some t.shown
  | .node kind fields => (shownFields? fields).map (shownCall kind.name)
  | .bare kind _ => some ("<" ++ kind.name ++ ">")
termination_by structural v => v

/-- The items of a collection as a message quotes them. -/
def shownItems? : List Value → Option (List String)
  | [] => some []
  | v :: rest => do return (← shown? v) :: (← shownItems? rest)
termination_by structural vs => vs

/-- The entries of a record as a message quotes them. -/
def shownEntries? : List (String × Value) → Option (List String)
  | [] => some []
  | (key, v) :: rest => do
    return (Text.quoted key ++ ": " ++ (← shown? v)) :: (← shownEntries? rest)
termination_by structural vs => vs

/-- The fields of a node as a message quotes them. -/
def shownFields? : List (String × Value) → Option (List String)
  | [] => some []
  | (key, v) :: rest => do return (key ++ "=" ++ (← shown? v)) :: (← shownFields? rest)
termination_by structural vs => vs

end

/-- The text of a value, unless there is an integer of too many digits in it. -/
def toText? : Value → Option String
  | .text s => some s
  | .decimal d => some d.text
  | .date d => some d.isoText
  | .time t => some t.isoText
  | .dateTime t => some (String.ofList (t.isoChars ' '))
  | .sqlType t => some ("SQLType." ++ t.symbol)
  | v => v.shown?

end SqlDialect.Value
