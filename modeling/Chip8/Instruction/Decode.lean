import Chip8.Instruction.Basic

/-!
# Decoding

An instruction word is read in fields: the family in its top four bits, two register selectors
below, and the low four, eight or twelve bits as a height or selector, a byte, or an address.
Every word decodes; words that are no instruction become `Instruction.undefined`.
-/

namespace Chip8

/-! ## Fields -/

namespace Word

/-- Bits 12 to 15: the family of the instruction, from 0 to 15. -/
def family (word : UInt16) : Nat := word.toNat / 4096

/-- Bits 8 to 11: the first register. -/
def x (word : UInt16) : Register := ⟨word.toNat / 256 % 16, Nat.mod_lt _ (by decide)⟩

/-- Bits 4 to 7: the second register. -/
def y (word : UInt16) : Register := ⟨word.toNat / 16 % 16, Nat.mod_lt _ (by decide)⟩

/-- Bits 0 to 3: a height, or which operation of the family. -/
def nibble (word : UInt16) : Fin 16 := ⟨word.toNat % 16, Nat.mod_lt _ (by decide)⟩

/-- Bits 0 to 7: a byte, or which operation of the family. -/
def byte (word : UInt16) : UInt8 := word.toUInt8

/-- Bits 0 to 11: an address. -/
def target (word : UInt16) : Target := ⟨word.toNat % 4096, Nat.mod_lt _ (by decide)⟩

end Word

/-! ## Families -/

namespace Instruction

/-- The instructions without operands. -/
def decodePlain (word : UInt16) : Instruction :=
  match Word.byte word with
  | 0xE0 => clear
  | 0xEE => ret
  | _ => undefined word

/-- The instructions on two registers. -/
def decodeArithmetic (word : UInt16) : Instruction :=
  let x := Word.x word
  let y := Word.y word
  match (Word.nibble word).val with
  | 0x0 => copy x y
  | 0x1 => or x y
  | 0x2 => and x y
  | 0x3 => xor x y
  | 0x4 => add x y
  | 0x5 => subtract x y
  | 0x6 => shiftRight x
  | 0x7 => subtractFrom x y
  | 0xE => shiftLeft x
  | _ => undefined word

/-- The skips on keys. -/
def decodeKey (word : UInt16) : Instruction :=
  match Word.byte word with
  | 0x9E => skipIfDown (Word.x word)
  | 0xA1 => skipIfUp (Word.x word)
  | _ => undefined word

/-- The instructions on timers, the index register and blocks of memory. -/
def decodeTransfer (word : UInt16) : Instruction :=
  let x := Word.x word
  match Word.byte word with
  | 0x07 => readDelay x
  | 0x0A => awaitKey x
  | 0x15 => setDelay x
  | 0x18 => setSound x
  | 0x1E => addIndex x
  | 0x29 => loadGlyph x
  | 0x33 => storeDecimal x
  | 0x55 => storeRegisters x
  | 0x65 => loadRegisters x
  | _ => undefined word

/-- The instruction that a word stands for. -/
def decode (word : UInt16) : Instruction :=
  match Word.family word with
  | 0x0 => decodePlain word
  | 0x1 => jump (Word.target word)
  | 0x2 => call (Word.target word)
  | 0x3 => skipIfByte (Word.x word) (Word.byte word)
  | 0x4 => skipUnlessByte (Word.x word) (Word.byte word)
  | 0x5 => skipIfEqual (Word.x word) (Word.y word)
  | 0x6 => loadByte (Word.x word) (Word.byte word)
  | 0x7 => addByte (Word.x word) (Word.byte word)
  | 0x8 => decodeArithmetic word
  | 0x9 => skipUnlessEqual (Word.x word) (Word.y word)
  | 0xA => loadIndex (Word.target word)
  | 0xB => jumpOffset (Word.target word)
  | 0xC => random (Word.x word) (Word.byte word)
  | 0xD => draw (Word.x word) (Word.y word) (Word.nibble word)
  | 0xE => decodeKey word
  | _ => decodeTransfer word

end Instruction

end Chip8
