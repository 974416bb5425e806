/-!
# Binary floating point

`Binary64` holds the 64-bit floating point numbers as exact values: a sign, a significand and a
power of two, or an infinity, or no number at all.  `ofRatio` rounds a ratio of integers to the
nearest of them, a tie to the even significand; every operation is exact arithmetic followed by
`ofRatio`.
-/

namespace SqlDialect

/-- A 64-bit floating point number.  The finite ones that `ofRatio` makes have either a significand
of 53 bits or the least exponent, so that each value has one form. -/
inductive Binary64
  | nan
  | infinite (negative : Bool)
  | finite (negative : Bool) (significand : Nat) (exponent : Int)
  deriving DecidableEq, Repr

namespace Binary64

/-- A quotient rounded to the nearest integer, a tie to the even one. -/
def roundQuotient (num den : Nat) : Nat :=
  let q := num / den
  let r := num % den
  if den < 2 * r || (den = 2 * r && q % 2 = 1) then q + 1 else q

/-- The least exponent of a finite number. -/
def minExponent : Int := -1074

/-- The greatest exponent of a finite number. -/
def maxExponent : Int := 971

/-- The ratio `num / den` in units of `2 ^ exponent`, as a ratio again. -/
def inUnits (num den : Nat) (exponent : Int) : Nat × Nat :=
  if 0 ≤ exponent then (num, den * Nat.pow 2 exponent.toNat)
  else (num * Nat.pow 2 (-exponent).toNat, den)

/-- The exponent that gives the significand of a positive ratio 53 bits, or the least one. -/
def exponentFor (num den : Nat) : Int :=
  let guess : Int := (Nat.log2 num : Int) - (Nat.log2 den : Int) - 52
  let (n, d) := inUnits num den guess
  max minExponent (if n / d < Nat.pow 2 52 then guess - 1 else guess)

/-- The number nearest to a ratio, with a sign. -/
def ofRatio (negative : Bool) (num den : Nat) : Binary64 :=
  if num = 0 then .finite negative 0 minExponent
  else
    let e := exponentFor num den
    let (n, d) := inUnits num den e
    let m := roundQuotient n d
    let (m, e) := if m = Nat.pow 2 53 then (Nat.pow 2 52, e + 1) else (m, e)
    if maxExponent < e then .infinite negative else .finite negative m e

/-- The number nearest to an integer. -/
def ofInt (n : Int) : Binary64 :=
  ofRatio (n < 0) n.natAbs 1

/-- The number of decimal digits. -/
def digitCount (n : Nat) : Nat :=
  (Nat.toDigits 10 n).length

/-- The number nearest to `± coefficient · 10 ^ exponent`.  Beyond the 400th power of ten the
answer no longer depends on the exponent. -/
def ofDecimal (negative : Bool) (coefficient : Nat) (exponent : Int) : Binary64 :=
  let size := (digitCount coefficient : Int) + exponent
  if coefficient = 0 || size < -400 then ofRatio negative 0 1
  else if 400 < size then .infinite negative
  else if 0 ≤ exponent then ofRatio negative (coefficient * Nat.pow 10 exponent.toNat) 1
  else ofRatio negative coefficient (Nat.pow 10 (-exponent).toNat)

/-- The magnitude of a significand and an exponent, as a ratio. -/
def magnitude (significand : Nat) (exponent : Int) : Nat × Nat :=
  if 0 ≤ exponent then (significand * Nat.pow 2 exponent.toNat, 1)
  else (significand, Nat.pow 2 (-exponent).toNat)

/-- The value of a finite number, as a ratio. -/
def ratio? : Binary64 → Option (Int × Nat)
  | .finite negative m e =>
    let (n, d) := magnitude m e
    some (if negative then -(n : Int) else n, d)
  | _ => none

/-- Whether the sign is minus; a NaN has none. -/
def isNegative : Binary64 → Bool
  | .nan => false
  | .infinite negative => negative
  | .finite negative _ _ => negative

/-- A NaN counts as true, and so does everything but the two zeros. -/
def isTrue : Binary64 → Bool
  | .finite _ m _ => m != 0
  | _ => true

/-- The number nearest to the difference; equal numbers differ by the positive zero. -/
def sub (x y : Binary64) : Binary64 :=
  match x, y with
  | .nan, _ | _, .nan => .nan
  | .infinite s, .infinite t => if s = t then .nan else .infinite s
  | .infinite s, _ => .infinite s
  | _, .infinite t => .infinite !t
  | .finite s m e, .finite t n f =>
    let (a, b) := magnitude m e
    let (c, d) := magnitude n f
    let signed (negative : Bool) (k : Nat) : Int := if negative then -(k : Int) else k
    let num := signed s (a * d) - signed t (c * b)
    if num = 0 then ofRatio (s && !t && m = 0) 0 1 else ofRatio (num < 0) num.natAbs (b * d)

/-- The number nearest to the product. -/
def mul (x y : Binary64) : Binary64 :=
  match x, y with
  | .nan, _ | _, .nan => .nan
  | .infinite s, y => if y.isTrue then .infinite (s != y.isNegative) else .nan
  | x, .infinite t => if x.isTrue then .infinite (x.isNegative != t) else .nan
  | .finite s m e, .finite t n f =>
    let (a, b) := magnitude m e
    let (c, d) := magnitude n f
    ofRatio (s != t) (a * c) (b * d)

/-- Whether a number is at least an integer. -/
def geInt (x : Binary64) (n : Int) : Bool :=
  match x with
  | .nan => false
  | .infinite negative => !negative
  | .finite .. => match x.ratio? with
    | some (a, b) => n * b ≤ a
    | none => false

/-- Whether a number is at least another one. -/
def ge (x y : Binary64) : Bool :=
  match x, y with
  | .nan, _ | _, .nan => false
  | .infinite s, .infinite t => !s || t
  | .infinite s, _ => !s
  | _, .infinite t => t
  | .finite .., .finite .. =>
    match x.ratio?, y.ratio? with
    | some (a, b), some (c, d) => c * b ≤ a * d
    | _, _ => false

/-- The integer part of a finite number, towards zero. -/
def truncate? (x : Binary64) : Option Int :=
  x.ratio?.map fun (a, b) => Int.tdiv a b

end Binary64

end SqlDialect
