import SqlDialect.Number.Binary64
import SqlDialect.Text.Numeral

/-!
# Floating point numerals

`Binary64.read?` reads a number as a configuration writes it: white space around it, a sign, digits
of any script with single underscores between them, a point, an exponent; or a word for an infinity
or for no number.
-/

namespace SqlDialect.Binary64

open Text

/-- A run of digits, with the underscores in it in order. -/
def readRun (s : List Char) : Option (List Nat) × List Char :=
  let marks := (s.takeWhile isNumeralMark).map digitValue?
  (if underscoresInside marks then some (marks.filterMap id) else none, s.dropWhile isNumeralMark)

/-- The exponent at the end of a numeral; nothing is the exponent zero. -/
def readExponent (s : List Char) : Option Int :=
  match s with
  | [] => some 0
  | c :: rest =>
    if c = 'e' || c = 'E' then
      let (negative, body) := splitSign rest
      match readRun body with
      | (some (d :: ds), []) =>
        some (if negative then -(ofDigits (d :: ds) : Int) else (ofDigits (d :: ds) : Int))
      | _ => none
    else none

/-- The fraction after a point; a numeral may do without one. -/
def readFraction (s : List Char) : Option (List Nat) × List Char :=
  match s with
  | '.' :: rest => readRun rest
  | rest => (some [], rest)

/-- A numeral without its sign. -/
def readUnsigned (negative : Bool) (s : List Char) : Option Binary64 :=
  match readRun s with
  | (none, _) => none
  | (some whole, rest) =>
    match readFraction rest with
    | (none, _) => none
    | (some fraction, rest) =>
      if whole.isEmpty && fraction.isEmpty then none
      else (readExponent rest).map fun e =>
        ofDecimal negative (ofDigits (whole ++ fraction)) (e - fraction.length)

/-- Reads a number. -/
def read? (s : List Char) : Option Binary64 :=
  let (negative, body) := splitSign (trimNumeral s)
  let word := String.ofList (body.map lowerAscii)
  if word = "inf" || word = "infinity" then some (.infinite negative)
  else if word = "nan" then some .nan
  else readUnsigned negative body

end SqlDialect.Binary64
