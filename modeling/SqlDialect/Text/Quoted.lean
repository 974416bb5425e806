import SqlDialect.Text.Printable

/-!
# Quoted text

Messages show a text between quotes: single ones, or double ones when the text holds a single quote
and no double one.  The backslash, the quote in use and the line breaks are escaped by a backslash,
every other unprintable character by its code point in two, four or eight hexadecimal digits.  Bytes
are shown the same way after a `b`, with every byte outside ASCII escaped.
-/

namespace SqlDialect.Text

/-- A hexadecimal digit. -/
def hexDigit (upper : Bool) (d : Nat) : Char :=
  if d < 10 then Char.ofNat (0x30 + d) else Char.ofNat ((if upper then 0x41 else 0x61) + d - 10)

/-- The last `width` hexadecimal digits of a number. -/
def hexDigits (upper : Bool) : Nat → Nat → List Char
  | 0, _ => []
  | width + 1, n => hexDigits upper width (n / 16) ++ [hexDigit upper (n % 16)]

/-- The quote that a text is shown in. -/
def quoteFor (s : List Char) : Char :=
  if s.contains '\'' && !s.contains '"' then '"' else '\''

/-- One character of a quoted text. -/
def escapeChar (quote c : Char) : List Char :=
  if c = quote || c = '\\' then ['\\', c]
  else if c = '\n' then ['\\', 'n']
  else if c = '\r' then ['\\', 'r']
  else if c = '\t' then ['\\', 't']
  else if isPrintable c then [c]
  else if c.toNat < 0x100 then '\\' :: 'x' :: hexDigits false 2 c.toNat
  else if c.toNat < 0x10000 then '\\' :: 'u' :: hexDigits false 4 c.toNat
  else '\\' :: 'U' :: hexDigits false 8 c.toNat

/-- One byte of a quoted byte string. -/
def escapeByte (quote : Char) (b : UInt8) : List Char :=
  if b.toNat < 0x80 then escapeChar quote (Char.ofNat b.toNat)
  else '\\' :: 'x' :: hexDigits false 2 b.toNat

/-- A text as messages show it. -/
def quoted (s : String) : String :=
  let q := quoteFor s.toList
  String.ofList (q :: s.toList.flatMap (escapeChar q) ++ [q])

/-- A byte string as messages show it. -/
def quotedBytes (data : List UInt8) : String :=
  let q := quoteFor (data.map fun b => Char.ofNat b.toNat)
  String.ofList ('b' :: q :: data.flatMap (escapeByte q) ++ [q])

end SqlDialect.Text
