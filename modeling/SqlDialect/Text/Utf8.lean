/-!
# UTF-8

`encode` writes a text as bytes.  `decodeLossy` reads bytes and never fails: an ill-formed sequence
becomes one `none`, which covers the longest start of a well-formed character that is there, or one
byte.  Callers drop these gaps (`decodeIgnoring`) or show U+FFFD for each (`decodeReplacing`).
-/

namespace SqlDialect.Text.Utf8

/-- The bytes of a character. -/
def encodeChar (c : Char) : List UInt8 :=
  let n := c.toNat
  if n < 0x80 then [UInt8.ofNat n]
  else if n < 0x800 then [UInt8.ofNat (0xC0 + n / 0x40), UInt8.ofNat (0x80 + n % 0x40)]
  else if n < 0x10000 then
    [UInt8.ofNat (0xE0 + n / 0x1000), UInt8.ofNat (0x80 + n / 0x40 % 0x40),
      UInt8.ofNat (0x80 + n % 0x40)]
  else
    [UInt8.ofNat (0xF0 + n / 0x40000), UInt8.ofNat (0x80 + n / 0x1000 % 0x40),
      UInt8.ofNat (0x80 + n / 0x40 % 0x40), UInt8.ofNat (0x80 + n % 0x40)]

/-- The bytes of a text. -/
def encode (s : List Char) : List UInt8 :=
  s.flatMap encodeChar

/-- What a first byte announces: its payload, how many bytes follow, and the range of the next. -/
structure Lead where
  payload : Nat
  follow : Nat
  low : Nat
  high : Nat

/-- Reads a first byte.  The range of the second byte rules out the overlong forms, the surrogates
and what lies above U+10FFFF. -/
def lead? (b : UInt8) : Option Lead :=
  let n := b.toNat
  if n < 0x80 then some ⟨n, 0, 0, 0⟩
  else if n < 0xC2 then none
  else if n < 0xE0 then some ⟨n - 0xC0, 1, 0x80, 0xBF⟩
  else if n < 0xF0 then
    some ⟨n - 0xE0, 2, if n = 0xE0 then 0xA0 else 0x80, if n = 0xED then 0x9F else 0xBF⟩
  else if n < 0xF5 then
    some ⟨n - 0xF0, 3, if n = 0xF0 then 0x90 else 0x80, if n = 0xF4 then 0x8F else 0xBF⟩
  else none

/-- Reads `follow` continuation bytes onto a payload, the first of them in a range of its own, and
gives the code point, or none, with the bytes that are left. -/
def continuation : Nat → Nat → Nat → Nat → List UInt8 → Option Nat × List UInt8
  | payload, 0, _, _, rest => (some payload, rest)
  | _, _ + 1, _, _, [] => (none, [])
  | payload, follow + 1, low, high, b :: rest =>
    if low ≤ b.toNat && b.toNat ≤ high then
      continuation (payload * 0x40 + (b.toNat - 0x80)) follow 0x80 0xBF rest
    else (none, b :: rest)

theorem length_continuation_le (payload follow low high : Nat) (s : List UInt8) :
    (continuation payload follow low high s).2.length ≤ s.length := by
  induction s generalizing payload follow low high with
  | nil => cases follow <;> simp [continuation]
  | cons b rest ih =>
    cases follow with
    | zero => simp [continuation]
    | succ follow =>
      simp only [continuation]
      split
      · exact Nat.le_succ_of_le (ih ..)
      · simp

/-- Reads bytes as characters; `none` stands for an ill-formed sequence. -/
def decodeLossy : List UInt8 → List (Option Char)
  | [] => []
  | b :: rest =>
    match lead? b with
    | none => none :: decodeLossy rest
    | some l =>
      (continuation l.payload l.follow l.low l.high rest).1.map Char.ofNat ::
        decodeLossy (continuation l.payload l.follow l.low l.high rest).2
termination_by s => s.length
decreasing_by
  · simp
  · exact Nat.lt_succ_of_le (length_continuation_le ..)

/-- Reads bytes and leaves out what is ill formed. -/
def decodeIgnoring (s : List UInt8) : List Char :=
  (decodeLossy s).filterMap id

/-- Reads bytes and shows U+FFFD for each ill-formed sequence. -/
def decodeReplacing (s : List UInt8) : List Char :=
  (decodeLossy s).map (·.getD (Char.ofNat 0xFFFD))

end SqlDialect.Text.Utf8
