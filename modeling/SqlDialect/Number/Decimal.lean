import SqlDialect.Text.Numeral

/-!
# Decimal numbers

A `Decimal` keeps the digits it was written with: a coefficient and a power of ten, so that `1.10`
and `1.1` differ as texts.  It may also be an infinity or no number.  `text` writes it positionally
unless the exponent is positive or the first digit lies more than six places behind the point.
-/

namespace SqlDialect

/-- What a decimal number is, apart from its sign. -/
inductive Decimal.Magnitude
  | finite (coefficient : Nat) (exponent : Int)
  | infinite
  | nan (signaling : Bool) (payload : String)
  deriving DecidableEq, Repr

/-- A decimal number. -/
structure Decimal where
  negative : Bool
  magnitude : Decimal.Magnitude
  deriving DecidableEq, Repr

namespace Decimal

open Text

/-- The text of a coefficient and an exponent. -/
def finiteText (coefficient : Nat) (exponent : Int) : String :=
  let digits := Nat.toDigits 10 coefficient
  let first := exponent + digits.length - 1
  if exponent ≤ 0 && -6 ≤ first then
    let places := (-exponent).toNat
    if places = 0 then String.ofList digits
    else
      let padded := List.replicate (places + 1 - digits.length) '0' ++ digits
      let whole := padded.length - places
      String.ofList (padded.take whole ++ '.' :: padded.drop whole)
  else
    let fraction := if digits.length ≤ 1 then [] else '.' :: digits.drop 1
    String.ofList (digits.take 1 ++ fraction) ++ (if first < 0 then "E-" else "E+") ++
      Nat.repr first.natAbs

/-- The text of a decimal number. -/
def text (d : Decimal) : String :=
  (if d.negative then "-" else "") ++
    match d.magnitude with
    | .finite c e => finiteText c e
    | .infinite => "Infinity"
    | .nan signaling payload => (if signaling then "sNaN" else "NaN") ++ payload

/-- Only the zeros count as false. -/
def isTrue (d : Decimal) : Bool :=
  match d.magnitude with
  | .finite c _ => c != 0
  | _ => true

/-- The integer part of a finite coefficient, towards zero. -/
def truncateMagnitude (coefficient : Nat) (exponent : Int) : Nat :=
  if 0 ≤ exponent then coefficient * Nat.pow 10 exponent.toNat
  else coefficient / Nat.pow 10 (-exponent).toNat

/-- The digits at the start of a text, as ASCII digits, and the rest. -/
def spanDigits (s : List Char) : List Nat × List Char :=
  ((s.takeWhile fun c => (digitValue? c).isSome).filterMap digitValue?,
    s.dropWhile fun c => (digitValue? c).isSome)

/-- The exponent at the end of a decimal; nothing is the exponent zero. -/
def readExponent (s : List Char) : Option Int :=
  match s with
  | [] => some 0
  | c :: rest =>
    if c = 'e' || c = 'E' then
      let (negative, body) := splitSign rest
      match spanDigits body with
      | (d :: ds, []) =>
        some (if negative then -(ofDigits (d :: ds) : Int) else (ofDigits (d :: ds) : Int))
      | _ => none
    else none

/-- A decimal without its sign: digits with a point, and an exponent. -/
def readFinite (s : List Char) : Option Magnitude :=
  let (whole, rest) := spanDigits s
  let (fraction, rest) := match rest with
    | '.' :: more => spanDigits more
    | more => ([], more)
  if whole.isEmpty && fraction.isEmpty then none
  else (readExponent rest).map fun e => .finite (ofDigits (whole ++ fraction)) (e - fraction.length)

/-- The magnitude that a word, in lower case, names. -/
def readWord (word : List Char) : Option Magnitude :=
  let payload (signaling : Bool) (rest : List Char) : Option Magnitude :=
    match spanDigits rest with
    | (ds, []) => some (.nan signaling (if ofDigits ds = 0 then "" else Nat.repr (ofDigits ds)))
    | _ => none
  match word with
  | 'n' :: 'a' :: 'n' :: rest => payload false rest
  | 's' :: 'n' :: 'a' :: 'n' :: rest => payload true rest
  | ['i', 'n', 'f'] => some .infinite
  | ['i', 'n', 'f', 'i', 'n', 'i', 't', 'y'] => some .infinite
  | _ => none

/-- Reads a decimal; white space around it and underscores anywhere are passed over. -/
def read? (s : String) : Option Decimal :=
  let (negative, body) := splitSign ((trimBy isSpace s.toList).filter (· ≠ '_'))
  let lowered := body.map fun c =>
    if 'A' ≤ c && c ≤ 'Z' then Char.ofNat (c.toNat + 0x20) else c
  ((readWord lowered).orElse fun _ => readFinite body).map (⟨negative, ·⟩)

end Decimal

end SqlDialect
