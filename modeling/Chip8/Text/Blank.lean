/-!
# Blank characters

Two sets of characters count as blank. Around an argument all of them are dropped; around the
digits of a number the four information separators U+001C to U+001F are not.
-/

namespace Chip8.Blank

/-- Blanks outside ASCII: next line, no-break space and the space, line and paragraph separators. -/
def isWide (c : Char) : Bool :=
  [0x85, 0xA0, 0x1680, 0x2028, 0x2029, 0x202F, 0x205F, 0x3000].contains c.toNat ||
    (0x2000 ≤ c.toNat && c.toNat ≤ 0x200A)

/-- Blanks that may surround the digits of a number. -/
def isPadding (c : Char) : Bool :=
  (9 ≤ c.toNat && c.toNat ≤ 13) || c.toNat == 32 || isWide c

/-- Blanks that may surround an argument: those around numbers and the information separators. -/
def isBlank (c : Char) : Bool :=
  isPadding c || (0x1C ≤ c.toNat && c.toNat ≤ 0x1F)

/-- Drops the blanks at both ends. -/
def trim (text : List Char) : List Char :=
  ((text.dropWhile isBlank).reverse.dropWhile isBlank).reverse

end Chip8.Blank
