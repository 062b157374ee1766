/-!
# Signed words

The integers that fit in a signed word of 32 or of 64 bits. Hosts may give integers of any size, but
some of them are refused when they do not fit in a word.
-/

namespace Chip8.SignedWord

/-- Whether an integer fits in 32 bits. -/
def fits32 (number : Int) : Bool :=
  decide (-0x80000000 ≤ number) && decide (number < 0x80000000)

/-- Whether an integer fits in 64 bits. -/
def fits64 (number : Int) : Bool :=
  decide (-0x8000000000000000 ≤ number) && decide (number < 0x8000000000000000)

end Chip8.SignedWord
