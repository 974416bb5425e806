import SqlDialect.Text.Digit
import SqlDialect.Text.Quoted
import SqlDialect.Text.Utf8

/-!
# Percent coding

The query of an address writes a byte as `%` and two hexadecimal digits, and a blank as `+`.
`decode` reads such a text: the bytes are read as UTF-8, and what is ill formed becomes U+FFFD; a
`%` without two digits stands for itself.  `encode` leaves ASCII letters, digits and `_ . - ~` as
they are and writes the UTF-8 bytes of every other character.
-/

namespace SqlDialect.Text.Percent

/-- The value of a hexadecimal digit in either letter case. -/
def hexValue? (c : Char) : Option Nat :=
  if '0' ≤ c && c ≤ '9' then some (c.toNat - 0x30)
  else if 'a' ≤ c && c ≤ 'f' then some (c.toNat - 0x57)
  else if 'A' ≤ c && c ≤ 'F' then some (c.toNat - 0x37)
  else none

/-- The byte of two hexadecimal digits. -/
def byte? (high low : Char) : Option UInt8 :=
  match hexValue? high, hexValue? low with
  | some h, some l => some (UInt8.ofNat (16 * h + l))
  | _, _ => none

/-- The bytes that a text stands for. -/
def bytes : List Char → List UInt8
  | '%' :: high :: low :: rest =>
    match byte? high low with
    | some b => b :: bytes rest
    | none => Utf8.encodeChar '%' ++ bytes (high :: low :: rest)
  | c :: rest => Utf8.encodeChar c ++ bytes rest
  | [] => []

/-- A `+` stands for a blank. -/
def plusToBlank (c : Char) : Char :=
  if c = '+' then ' ' else c

/-- Reads a coded text. -/
def decode (s : List Char) : List Char :=
  Utf8.decodeReplacing (bytes (s.map plusToBlank))

/-- Characters that need no coding. -/
def isUnreserved (c : Char) : Bool :=
  isAsciiLetter c || isAsciiDigit c || c = '_' || c = '.' || c = '-' || c = '~'

/-- One byte, coded. -/
def encodeByte (b : UInt8) : List Char :=
  '%' :: hexDigits true 2 b.toNat

/-- One character, coded. -/
def encodeChar (c : Char) : List Char :=
  if isUnreserved c then [c]
  else if c = ' ' then ['+']
  else (Utf8.encodeChar c).flatMap encodeByte

/-- Codes a text. -/
def encode (s : List Char) : List Char :=
  s.flatMap encodeChar

end SqlDialect.Text.Percent
