import Chip8.Error
import Chip8.Overwrite

/-!
# Main memory

Memory is 4096 bytes. The glyphs of the sixteen hexadecimal digits lie at its beginning, five
bytes each, and a program image is placed at `0x200`. Every access checks that its whole block lies
inside memory before anything is read or written, so a refused access has no effect.

Addresses are integers of any size: the machine only presents small ones, a host may present any.
-/

namespace Chip8

/-! ## Images -/

/-- A program image that fits the area from `0x200` to the end of memory. -/
structure Rom where
  bytes : List UInt8
  fits : bytes.length ≤ 3584

namespace Rom

/-- The image without bytes. -/
def empty : Rom where
  bytes := []
  fits := by decide

/-- Accepts an image that fits. -/
def ofBytes (bytes : List UInt8) : Except LoadFailure Rom :=
  if fits : bytes.length ≤ 3584 then .ok { bytes, fits } else .error (.tooLarge bytes.length)

end Rom

/-! ## The font -/

/-- The glyphs of the digits `0` to `F`, five rows each, the top row first. -/
def font : List UInt8 := [
  0xF0, 0x90, 0x90, 0x90, 0xF0,
  0x20, 0x60, 0x20, 0x20, 0x70,
  0xF0, 0x10, 0xF0, 0x80, 0xF0,
  0xF0, 0x10, 0xF0, 0x10, 0xF0,
  0x90, 0x90, 0xF0, 0x10, 0x10,
  0xF0, 0x80, 0xF0, 0x10, 0xF0,
  0xF0, 0x80, 0xF0, 0x90, 0xF0,
  0xF0, 0x10, 0x20, 0x40, 0x40,
  0xF0, 0x90, 0xF0, 0x90, 0xF0,
  0xF0, 0x90, 0xF0, 0x10, 0xF0,
  0xF0, 0x90, 0xF0, 0x90, 0x90,
  0xE0, 0x90, 0xE0, 0x90, 0xE0,
  0xF0, 0x80, 0x80, 0x80, 0xF0,
  0xE0, 0x90, 0x90, 0x90, 0xE0,
  0xF0, 0x80, 0xF0, 0x80, 0xF0,
  0xF0, 0x80, 0xF0, 0x80, 0x80]

/-- Where the glyph of a digit begins. -/
def glyphAddress (digit : Int) : Int := 5 * digit

/-! ## Memory -/

/-- The contents of memory and the size of the image that was loaded last. -/
structure Memory where
  data : Vector UInt8 4096
  imageSize : Nat
deriving DecidableEq

namespace Memory

/-- Memory that holds the font and zeros. -/
def blank : Memory where
  data := overwrite (Vector.replicate 4096 0) 0 font
  imageSize := 0

/-- Places an image in the program area. Bytes behind the image keep their value. -/
def load (memory : Memory) (rom : Rom) : Memory where
  data := overwrite memory.data 0x200 rom.bytes
  imageSize := rom.bytes.length

/-! ### Bounds -/

/-- Whether a block lies inside memory. Only its two ends are compared. -/
def Within (address count : Int) : Prop :=
  0 ≤ address ∧ address + count ≤ 4096

-- Decided by comparing natural numbers: to compare integers, a proof that evaluates the test would
-- count down from 4096.
instance (address count : Int) : Decidable (Within address count) :=
  decidable_of_iff (0 ≤ address ∧ (address + count).toNat ≤ 4096) (by unfold Within; omega)

/-- The address that is blamed when a block leaves memory: its start if that lies outside, and
else the first address past the end. -/
def blamed (address : Int) : Int :=
  if address < 0 ∨ 4096 ≤ address then address else 4096

/-- The refusal of a block. -/
def refusal (address : Int) : Fault.Cause :=
  .memoryAccess (blamed address)

/-! ### Reading -/

/-- The bytes from one address up to another. -/
def slice (memory : Memory) (start stop : Nat) : List UInt8 :=
  (memory.data.toArray.extract start stop).toList

/-- Where a block that passed the bounds check ends. An end before address zero counts back from
the end of memory. -/
def blockEnd (address count : Int) : Nat :=
  if address + count < 0 then (4096 + (address + count)).toNat else (address + count).toNat

/-- Reads a block of bytes. -/
def readBytes (memory : Memory) (address count : Int) : Except Fault.Cause (List UInt8) :=
  if Within address count then .ok (memory.slice address.toNat (blockEnd address count))
  else .error (refusal address)

/-- Reads one byte. -/
def read (memory : Memory) (address : Int) : Except Fault.Cause UInt8 :=
  if h : Within address 1 then
    have inside : address.toNat < 4096 := by obtain ⟨_, _⟩ := h; omega
    .ok memory.data[address.toNat]
  else .error (refusal address)

/-- Reads two bytes as a number, the more significant byte first. -/
def readWord (memory : Memory) (address : Int) : Except Fault.Cause UInt16 :=
  if h : Within address 2 then
    have inside : address.toNat + 1 < 4096 := by obtain ⟨_, _⟩ := h; omega
    let high := memory.data[address.toNat]
    let low := memory.data[address.toNat + 1]
    .ok (high.toUInt16 * 256 + low.toUInt16)
  else .error (refusal address)

/-! ### Writing -/

/-- Writes a block of bytes. -/
def writeBytes (memory : Memory) (address : Int) (bytes : List UInt8) :
    Except Fault.Cause Memory :=
  if Within address bytes.length then
    .ok { memory with data := overwrite memory.data address.toNat bytes }
  else .error (refusal address)

/-- Writes one byte. -/
def write (memory : Memory) (address : Int) (byte : UInt8) : Except Fault.Cause Memory :=
  memory.writeBytes address [byte]

end Memory

end Chip8
