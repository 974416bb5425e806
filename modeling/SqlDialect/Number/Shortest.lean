import SqlDialect.Number.Binary64

/-!
# Decimal text of floating point numbers

`Binary64.text` writes the fewest digits that read back as the same number, and of those the digits
nearest to it.  Exponents from -4 to 15 are written positionally, with at least one digit after the
point; the others as `1e+16` or `1e-05`.  `Binary64.twoPlaces` writes exactly two places, a tie to
the even last digit.
-/

namespace SqlDialect.Binary64

/-- The ratio `num / den` in units of `10 ^ exponent`, as a ratio again. -/
def inTens (num den : Nat) (exponent : Int) : Nat × Nat :=
  if 0 ≤ exponent then (num, den * Nat.pow 10 exponent.toNat)
  else (num * Nat.pow 10 (-exponent).toNat, den)

/-- The exponent of the first decimal digit of a positive ratio: the `k` with
`10 ^ k ≤ num / den < 10 ^ (k + 1)`. -/
def leadingExponent (num den : Nat) : Int :=
  if den ≤ num then (digitCount (num / den) : Int) - 1
  else
    let d := digitCount (den / num)
    if den ≤ num * Nat.pow 10 (d - 1) then -((d : Int) - 1) else -(d : Int)

/-- A decimal significand and its exponent. -/
structure Decimals where
  digits : Nat
  exponent : Int
  deriving DecidableEq, Repr

/-- The grid point of exponent `k` next to a positive finite number that reads back as it: the
nearer of the two neighbours, of two equally near ones the even. -/
def onGrid? (x : Binary64) (num den : Nat) (k : Int) : Option Decimals :=
  let (n, d) := inTens num den k
  let below := n / d
  let near := roundQuotient n d
  let far := if near = below then below + 1 else below
  if ofDecimal false near k = x then some ⟨near, k⟩
  else if ofDecimal false far k = x then some ⟨far, k⟩
  else none

/-- Ten units of a grid are one unit of the next coarser grid. -/
def Decimals.carry (d : Decimals) : Decimals :=
  if d.digits % 10 = 0 then ⟨d.digits / 10, d.exponent + 1⟩ else d

/-- The fewest decimal digits, at most seventeen, that read back as a positive finite number. -/
def shortest (x : Binary64) (num den : Nat) : Decimals :=
  let lead := leadingExponent num den
  (((List.range 17).findSome? fun (i : Nat) => onGrid? x num den (lead - i)).getD ⟨0, 0⟩).carry

/-- A decimal significand written out: `first` is the exponent of its first digit. -/
def layout (digits : List Char) (first : Int) : List Char :=
  if -4 ≤ first && first < 16 then
    if first < 0 then '0' :: '.' :: List.replicate (-first - 1).toNat '0' ++ digits
    else
      let whole := first.toNat + 1
      if digits.length ≤ whole then
        digits ++ List.replicate (whole - digits.length) '0' ++ ['.', '0']
      else digits.take whole ++ '.' :: digits.drop whole
  else
    let fraction := if digits.length ≤ 1 then [] else '.' :: digits.drop 1
    let power := Nat.toDigits 10 first.natAbs
    digits.take 1 ++ fraction ++ ['e', if first < 0 then '-' else '+'] ++
      (if power.length < 2 then '0' :: power else power)

/-- The shortest text that reads back as the number. -/
def text : Binary64 → String
  | .nan => "nan"
  | .infinite negative => if negative then "-inf" else "inf"
  | .finite negative m e =>
    let (num, den) := magnitude m e
    let body :=
      if m = 0 then ['0', '.', '0']
      else
        let s := shortest (.finite false m e) num den
        let digits := Nat.toDigits 10 s.digits
        layout digits (s.exponent + digits.length - 1)
    String.ofList (if negative then '-' :: body else body)

/-- The text with two places after the point. -/
def twoPlaces : Binary64 → String
  | .nan => "nan"
  | .infinite negative => if negative then "-inf" else "inf"
  | .finite negative m e =>
    let (num, den) := magnitude m e
    let hundredths := roundQuotient (num * 100) den
    let digits := Nat.toDigits 10 (hundredths % 100)
    (if negative then "-" else "") ++ Nat.repr (hundredths / 100) ++ "." ++
      String.ofList (if digits.length < 2 then '0' :: digits else digits)

end SqlDialect.Binary64
