import SqlDialect.Text.Cut
import SqlDialect.Text.Percent

/-!
# Internet addresses

* An IPv4 address (`isVersion4`) is four numbers up to 255 between points, without leading zeros.
* An IPv6 address (`isVersion6`) is eight groups of up to four hexadecimal digits between colons.
  The last two groups may be written as an IPv4 address, and `::` stands for one or more groups of
  zeros, once.  A zone may follow after a `%`.
* An address of a later version (`isLater`) is a `v`, its version in hexadecimal, a point and
  anything that is not empty.
-/

namespace SqlDialect.IpAddress

open Text

/-- A hexadecimal digit, in either letter case. -/
def isHexDigit (c : Char) : Bool :=
  (Percent.hexValue? c).isSome

/-- One number of an IPv4 address. -/
def isOctet (s : List Char) : Bool :=
  !s.isEmpty && s.length ≤ 3 && s.all isAsciiDigit && (s.length = 1 || s.head? != some '0') &&
    s.foldl (fun n c => n * 10 + (c.toNat - '0'.toNat)) 0 ≤ 255

/-- An IPv4 address. -/
def isVersion4 (s : List Char) : Bool :=
  (pieces '.' s).length = 4 && (pieces '.' s).all isOctet

/-- One group of an IPv6 address. -/
def isGroup (s : List Char) : Bool :=
  !s.isEmpty && s.length ≤ 4 && s.all isHexDigit

/-- How many groups the parts between colons make; a last part may be an IPv4 address, which makes
two, if `final` says that the address ends with it. -/
def countGroups? (final : Bool) : List (List Char) → Option Nat
  | [] => some 0
  | [last] =>
    if isGroup last then some 1
    else if final && isVersion4 last then some 2
    else none
  | part :: rest => if isGroup part then (countGroups? final rest).map (· + 1) else none

/-- The parts between colons; an empty text has none. -/
def parts (s : List Char) : List (List Char) :=
  if s.isEmpty then [] else pieces ':' s

/-- The text before the first two colons in a row, and what follows them if they are there. -/
def cutGap : List Char → List Char × Option (List Char)
  | [] => ([], none)
  | ':' :: ':' :: rest => ([], some rest)
  | c :: rest => (c :: (cutGap rest).1, (cutGap rest).2)

/-- The groups of an IPv6 address: eight of them, or up to seven around a gap. -/
def hasGroups (s : List Char) : Bool :=
  match cutGap s with
  | (all, none) => countGroups? true (parts all) = some 8
  | (before, some after) =>
    match countGroups? false (parts before), countGroups? true (parts after) with
    | some m, some n => m + n ≤ 7
    | _, _ => false

/-- An IPv6 address, perhaps with a zone. -/
def isVersion6 (s : List Char) : Bool :=
  match cut '%' s with
  | (groups, none) => hasGroups groups
  | (groups, some zone) => hasGroups groups && !zone.isEmpty && !zone.contains '%'

/-- An address of a later version. -/
def isLater : List Char → Bool
  | 'v' :: rest =>
    match rest.takeWhile isHexDigit, rest.dropWhile isHexDigit with
    | _ :: _, '.' :: _ :: _ => true
    | _, _ => false
  | _ => false

end SqlDialect.IpAddress
