import SqlDialect.Text.Blank
import SqlDialect.Text.Digit

/-!
# Integer numerals

`readInteger` reads an integer in decimal: white space around it, a sign, and digits of any script,
between which a single underscore may stand.  A numeral of more than `maxDigits` digits is refused
with their number, even when something else is wrong after them.  The same limit holds the other way
round: `decimalInt?` writes no integer of more digits.
-/

namespace SqlDialect.Text

/-- Why a text is no integer numeral. -/
inductive NumeralError
  | malformed
  | tooLong (digits : Nat)
  deriving DecidableEq, Repr

/-- The most digits that a numeral may have, read or written. -/
def maxDigits : Nat := 4300

/-- A text without the white space that may stand around a numeral. -/
def trimNumeral (s : List Char) : List Char :=
  trimBy isNumeralSpace s

/-- Splits a sign off; `true` is minus. -/
def splitSign : List Char → Bool × List Char
  | '-' :: rest => (true, rest)
  | '+' :: rest => (false, rest)
  | s => (false, s)

/-- A digit, or the underscore that may stand between digits. -/
def isNumeralMark (c : Char) : Bool :=
  c = '_' || (digitValue? c).isSome

/-- Whether every underscore, here `none`, stands between two digits. -/
def underscoresInside : List (Option Nat) → Bool
  | [] => true
  | none :: _ => false
  | [some _] => true
  | some _ :: none :: rest => !rest.isEmpty && underscoresInside rest
  | some _ :: some d :: rest => underscoresInside (some d :: rest)

/-- The number that digits write, most significant first. -/
def ofDigits (digits : List Nat) : Nat :=
  digits.foldl (fun n d => 10 * n + d) 0

/-- Reads an integer numeral. -/
def readInteger (s : List Char) : Except NumeralError Int :=
  let (negative, body) := splitSign (trimNumeral s)
  let marks := (body.takeWhile isNumeralMark).map digitValue?
  let rest := body.dropWhile isNumeralMark
  let digits := marks.filterMap id
  if !underscoresInside marks then .error .malformed
  else if digits.length > maxDigits then .error (.tooLong digits.length)
  else if digits.isEmpty || !rest.isEmpty then .error .malformed
  else .ok (if negative then -(ofDigits digits : Int) else (ofDigits digits : Int))

/-- An integer in decimal. -/
def decimalInt (n : Int) : String :=
  match n with
  | .ofNat n => Nat.repr n
  | .negSucc n => "-" ++ Nat.repr (n + 1)

/-- An integer in decimal, unless it has more digits than a numeral may have. -/
def decimalInt? (n : Int) : Option String :=
  if n.natAbs < Nat.pow 10 maxDigits then some (decimalInt n) else none

/-- The text of the refusal to write an integer of too many digits. -/
def unwritableMessage : String :=
  "Exceeds the limit (4300 digits) for integer string conversion; " ++
    "use sys.set_int_max_str_digits() to increase the limit"

end SqlDialect.Text
