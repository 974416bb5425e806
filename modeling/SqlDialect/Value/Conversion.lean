import SqlDialect.Text.Numeral
import SqlDialect.Value.Shown

/-!
# Conversion of values

A parameter may have to become an integer, a text, a byte string, a text in ISO 8601 or an instant in
UTC.  Each conversion is defined for some kinds of values and fails on the others, with a
`ConversionError` that says why.
-/

namespace SqlDialect

/-- Why a value cannot be converted. -/
inductive ConversionError
  /-- No value of this type converts. -/
  | wrongType
  /-- Values of this type are no dates or times. -/
  | notTemporal
  /-- A text or byte string, here as messages show it, that is no integer numeral. -/
  | notNumeral (shown : String)
  /-- An integer numeral with too many digits. -/
  | tooManyDigits (digits : Nat)
  /-- A value in which there is an integer of too many digits to be written. -/
  | unwritable
  /-- A floating point number that is none. -/
  | floatNan
  /-- A decimal number that is none. -/
  | decimalNan
  /-- An infinity has no integer part. -/
  | infinite
  /-- A byte string of negative length. -/
  | negativeCount
  /-- A byte string longer than any may be. -/
  | countTooLarge
  /-- A byte string longer than any memory. -/
  | outOfMemory
  /-- An integer that is no byte. -/
  | byteOutOfRange
  /-- A time that cannot be moved to UTC. -/
  | utc (cause : UtcError)
  deriving DecidableEq, Repr

/-- The text of a failure. -/
def ConversionError.message : ConversionError → String
  | .wrongType => "value cannot be converted"
  | .notTemporal => "value is no date or time"
  | .notNumeral shown => "invalid literal for int() with base 10: " ++ shown
  | .tooManyDigits digits =>
    "Exceeds the limit (4300 digits) for integer string conversion: value has " ++
      Nat.repr digits ++ " digits; use sys.set_int_max_str_digits() to increase the limit"
  | .unwritable => Text.unwritableMessage
  | .floatNan => "cannot convert float NaN to integer"
  | .decimalNan => "cannot convert NaN to integer"
  | .infinite => "cannot convert infinity to integer"
  | .negativeCount => "negative count"
  | .countTooLarge => "byte string is too large"
  | .outOfMemory => "out of memory"
  | .byteOutOfRange => "bytes must be in range(0, 256)"
  | .utc .outOfCalendar => "date value out of range"
  | .utc .noDayBefore => "year 0 is out of range"

namespace Value

/-- How much of a text or byte string, and of what is shown of it, a failure keeps. -/
def shownLength : Nat := 200

/-- Reads an integer numeral; a failure shows the start of the text. -/
def numeralInteger (s : List Char) (shown : String) : Except ConversionError Int :=
  match Text.readInteger s with
  | .ok n => .ok n
  | .error .malformed => .error (.notNumeral (String.ofList (shown.toList.take shownLength)))
  | .error (.tooLong digits) => .error (.tooManyDigits digits)

/-- The characters of ASCII bytes; other bytes become a character that is in no numeral. -/
def asciiChars (data : List UInt8) : List Char :=
  data.map fun b => if b.toNat < 0x80 then Char.ofNat b.toNat else '?'

/-- The integer of a value: of a number the part before the point, of a text the number it
writes. -/
def toInteger (v : Value) : Except ConversionError Int :=
  match v with
  | .bool b => .ok (if b then 1 else 0)
  | .int n => .ok n
  | .float .nan => .error .floatNan
  | .float x =>
    match x.truncate? with
    | some n => .ok n
    | none => .error .infinite
  | .text s => numeralInteger s.toList (Text.quoted s)
  | .sqlType t => numeralInteger t.sqlText.toList (shownSqlType t)
  | .bytes _ data => numeralInteger (asciiChars data) (Text.quotedBytes (data.take shownLength))
  | .decimal d =>
    match d.magnitude with
    | .finite c e =>
      .ok (if d.negative then -(Decimal.truncateMagnitude c e : Int)
        else (Decimal.truncateMagnitude c e : Int))
    | .infinite => .error .infinite
    | .nan _ _ => .error .decimalNan
  | _ => .error .wrongType

/-- The text of a value. -/
def writeText (v : Value) : Except ConversionError String :=
  match v.toText? with
  | some s => .ok s
  | none => .error .unwritable

/-- One byte. -/
def toByte (v : Value) : Except ConversionError UInt8 :=
  let checked (n : Int) : Except ConversionError UInt8 :=
    if 0 ≤ n && n < 256 then .ok (UInt8.ofNat n.toNat) else .error .byteOutOfRange
  match v with
  | .bool b => checked (if b then 1 else 0)
  | .int n => checked n
  | _ => .error .wrongType

/-- No byte string is longer. -/
def maxLength : Int := (Nat.pow 2 63 : Int) - 34

/-- No memory holds a byte string of this length. -/
def memoryLength : Int := (Nat.pow 2 40 : Int)

/-- A number of zero bytes. -/
def zeroBytes (n : Int) : Except ConversionError (List UInt8) :=
  if n < -(Nat.pow 2 63 : Int) || maxLength < n then .error .countTooLarge
  else if n < 0 then .error .negativeCount
  else if memoryLength ≤ n then .error .outOfMemory
  else .ok (List.replicate n.toNat 0)

/-- The bytes of a value: those of a byte string, as many zeros as an integer says, or the items of
a list. -/
def toBytes : Value → Except ConversionError (List UInt8)
  | .bytes _ data => .ok data
  | .bool b => zeroBytes (if b then 1 else 0)
  | .int n => zeroBytes n
  | .list items => items.mapM toByte
  | .tuple items => items.mapM toByte
  | .record [] => .ok []
  | _ => .error .wrongType

/-- A date or time in ISO 8601. -/
def toIsoText : Value → Except ConversionError String
  | .date d => .ok d.isoText
  | .time t => .ok t.isoText
  | .dateTime t => .ok t.isoText
  | .hostType .date => .error .wrongType
  | .hostType .time => .error .wrongType
  | .hostType .dateTime => .error .wrongType
  | _ => .error .notTemporal

/-- A date and time in UTC, in ISO 8601. -/
def toUtcText : Value → Except ConversionError String
  | .dateTime t =>
    match t.toUtc with
    | .ok u => .ok u.isoText
    | .error e => .error (.utc e)
  | .hostType .dateTime => .error .wrongType
  | _ => .error .notTemporal

end Value

end SqlDialect
