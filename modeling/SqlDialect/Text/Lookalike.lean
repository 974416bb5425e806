/-!
# Characters that hide a delimiter

Compatibility normalisation turns some characters into, or into a sequence with, one of the
delimiters of an address: `/`, `?`, `#`, `@` and `:`.  `hidesDelimiter` is that set (Unicode 14).
-/

namespace SqlDialect.Text

/-- The code points whose compatibility form holds a delimiter of an address. -/
def delimiterLookalikes : List Nat :=
  [0x2047, 0x2048, 0x2049, 0x2100, 0x2101, 0x2105, 0x2106, 0x2A74, 0xFE13, 0xFE16, 0xFE55, 0xFE56,
   0xFE5F, 0xFE6B, 0xFF03, 0xFF0F, 0xFF1A, 0xFF1F, 0xFF20]

/-- Whether the compatibility form of a character holds a delimiter of an address. -/
def hidesDelimiter (c : Char) : Bool :=
  delimiterLookalikes.contains c.toNat

end SqlDialect.Text
