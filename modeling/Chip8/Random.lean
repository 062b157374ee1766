import Chip8.Random.Twister

/-!
# Random bytes

The machine draws random bytes from a generator that is seeded, or from any given stream of
integers, of which the low eight bits count. The source counts the bytes drawn so far.
-/

namespace Chip8

/-- Where random numbers come from. -/
inductive RandomSource.Generator
  | twister (twister : Twister)
  | stream (number : Nat → Int)

/-- A generator, and how many bytes have been drawn. -/
structure RandomSource where
  generator : RandomSource.Generator
  drawn : Nat := 0

namespace RandomSource

/-- The source seeded with a number. -/
def seeded (seed : Int) : RandomSource where
  generator := .twister (.ofSeed seed)

/-- The source that gives the numbers of a stream. -/
def ofStream (number : Nat → Int) : RandomSource where
  generator := .stream number

/-- The source that gives the numbers of a list over and over. -/
def cycling (numbers : List Int) : RandomSource :=
  ofStream fun k => numbers.getD (k % numbers.length) 0

/-- Draws a byte: the top eight bits of a random word, or the low eight of a number. -/
def next (source : RandomSource) : UInt8 × RandomSource :=
  match source with
  | ⟨.twister twister, drawn⟩ =>
    let (word, twister) := twister.next
    ((word >>> 24).toUInt8, ⟨.twister twister, drawn + 1⟩)
  | ⟨.stream number, drawn⟩ => (UInt8.ofInt (number drawn), ⟨.stream number, drawn + 1⟩)

/-- Draws several bytes. -/
def take (source : RandomSource) : Nat → List UInt8
  | 0 => []
  | count + 1 =>
    let (byte, source) := source.next
    byte :: source.take count

end RandomSource

end Chip8
