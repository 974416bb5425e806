/-!
# White space

`isSpace` is the white space that is stripped from the ends of a text; a text is *blank* when
nothing else is left of it.  Besides the Unicode white space it takes the four separators
U+001C to U+001F; the zero-width space U+200B is not among it.
-/

namespace SqlDialect.Text

/-- White space at the ends of a text. -/
def isSpace (c : Char) : Bool :=
  let n := c.toNat
  (0x09 ≤ n && n ≤ 0x0D) || (0x1C ≤ n && n ≤ 0x20) || n == 0x85 || n == 0xA0 || n == 0x1680 ||
    (0x2000 ≤ n && n ≤ 0x200A) || n == 0x2028 || n == 0x2029 || n == 0x202F || n == 0x205F ||
    n == 0x3000

/-- White space that may stand around the digits of a numeral: the four separators U+001C to
U+001F do not count there. -/
def isNumeralSpace (c : Char) : Bool :=
  isSpace c && !(0x1C ≤ c.toNat && c.toNat ≤ 0x1F)

/-- Drops the characters of a class from both ends. -/
def trimBy (p : Char → Bool) (s : List Char) : List Char :=
  ((s.dropWhile p).reverse.dropWhile p).reverse

/-- A text without the white space at its ends. -/
def strip (s : String) : String :=
  String.ofList (trimBy isSpace s.toList)

/-- A text that holds white space only. -/
def isBlank (s : String) : Bool :=
  s.toList.all isSpace

end SqlDialect.Text
