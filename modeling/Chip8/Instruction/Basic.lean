import Chip8.Text.Numeral

/-!
# Instructions

The instructions of the machine, each with just the operands it uses, and their mnemonics. A word
that is no instruction is kept as it is.
-/

namespace Chip8

/-- One of the sixteen general registers. -/
abbrev Register := Fin 16

/-- An address that an instruction can name. -/
abbrev Target := Fin 4096

/-- The register `V0`. -/
def Register.first : Register := ⟨0, by decide⟩

/-- The register that offsets a jump. -/
def Register.offset : Register := first

/-- The register that carries, borrows and collisions are reported in. -/
def Register.flag : Register := 0xF

/-- What the machine can do in one step. -/
inductive Instruction
  /-- Turns the screen dark. -/
  | clear
  /-- Continues at the newest return address, which leaves the stack. -/
  | ret
  | jump (target : Target)
  /-- Puts the address behind the instruction on the stack and jumps. -/
  | call (target : Target)
  | skipIfByte (x : Register) (byte : UInt8)
  | skipUnlessByte (x : Register) (byte : UInt8)
  | skipIfEqual (x y : Register)
  | skipUnlessEqual (x y : Register)
  | loadByte (x : Register) (byte : UInt8)
  /-- Adds without reporting a carry. -/
  | addByte (x : Register) (byte : UInt8)
  | copy (x y : Register)
  | or (x y : Register)
  | and (x y : Register)
  | xor (x y : Register)
  /-- Adds the second register; the flag tells whether the sum was cut. -/
  | add (x y : Register)
  /-- Subtracts the second register; the flag tells whether nothing was borrowed. -/
  | subtract (x y : Register)
  /-- Subtracts the register from the second one, with the flag of `subtract`. -/
  | subtractFrom (x y : Register)
  /-- Halves a register; the flag takes the bit that falls off. -/
  | shiftRight (x : Register)
  /-- Doubles a register; the flag takes the bit that falls off. -/
  | shiftLeft (x : Register)
  | loadIndex (target : Target)
  /-- Jumps to the sum of an address and register zero. -/
  | jumpOffset (target : Target)
  /-- Loads those bits of a random byte that a mask selects. -/
  | random (x : Register) (mask : UInt8)
  /-- Draws as many sprite rows as the height says, read from the index register on. -/
  | draw (x y : Register) (height : Fin 16)
  | skipIfDown (x : Register)
  | skipIfUp (x : Register)
  | readDelay (x : Register)
  /-- Waits until a key is down and loads its code. -/
  | awaitKey (x : Register)
  | setDelay (x : Register)
  | setSound (x : Register)
  | addIndex (x : Register)
  /-- Points the index register at the glyph of a digit. -/
  | loadGlyph (x : Register)
  /-- Stores the three decimal digits of a register. -/
  | storeDecimal (x : Register)
  /-- Stores the registers up to and including this one. -/
  | storeRegisters (x : Register)
  /-- Loads the registers up to and including this one. -/
  | loadRegisters (x : Register)
  | undefined (word : UInt16)
deriving DecidableEq, Repr

namespace Instruction

/-! ## Mnemonics -/

/-- A register in a mnemonic. -/
def registerName (x : Register) : String := "V" ++ Numeral.hex 1 x.val

/-- A byte in a mnemonic. -/
def byteText (byte : UInt8) : String := "$" ++ Numeral.hex 2 byte.toNat

/-- An address in a mnemonic. -/
def targetText (target : Target) : String := "$" ++ Numeral.hex 3 target.val

/-- The name of an operation with its operands. -/
def withOperands (name : String) (operands : List String) : String :=
  name ++ " " ++ ", ".intercalate operands

/-- The written form of an instruction. -/
def mnemonic : Instruction → String
  | clear => "CLS"
  | ret => "RET"
  | jump target => withOperands "JP" [targetText target]
  | call target => withOperands "CALL" [targetText target]
  | skipIfByte x byte => withOperands "SE" [registerName x, byteText byte]
  | skipUnlessByte x byte => withOperands "SNE" [registerName x, byteText byte]
  | skipIfEqual x y => withOperands "SE" [registerName x, registerName y]
  | skipUnlessEqual x y => withOperands "SNE" [registerName x, registerName y]
  | loadByte x byte => withOperands "LD" [registerName x, byteText byte]
  | addByte x byte => withOperands "ADD" [registerName x, byteText byte]
  | copy x y => withOperands "LD" [registerName x, registerName y]
  | or x y => withOperands "OR" [registerName x, registerName y]
  | and x y => withOperands "AND" [registerName x, registerName y]
  | xor x y => withOperands "XOR" [registerName x, registerName y]
  | add x y => withOperands "ADD" [registerName x, registerName y]
  | subtract x y => withOperands "SUB" [registerName x, registerName y]
  | subtractFrom x y => withOperands "SUBN" [registerName x, registerName y]
  | shiftRight x => withOperands "SHR" [registerName x]
  | shiftLeft x => withOperands "SHL" [registerName x]
  | loadIndex target => withOperands "LD" ["I", targetText target]
  | jumpOffset target => withOperands "JP" ["V0", targetText target]
  | random x mask => withOperands "RND" [registerName x, byteText mask]
  | draw x y height =>
    withOperands "DRW" [registerName x, registerName y, Numeral.decimal height.val]
  | skipIfDown x => withOperands "SKP" [registerName x]
  | skipIfUp x => withOperands "SKNP" [registerName x]
  | readDelay x => withOperands "LD" [registerName x, "DT"]
  | awaitKey x => withOperands "LD" [registerName x, "K"]
  | setDelay x => withOperands "LD" ["DT", registerName x]
  | setSound x => withOperands "LD" ["ST", registerName x]
  | addIndex x => withOperands "ADD" ["I", registerName x]
  | loadGlyph x => withOperands "LD" ["F", registerName x]
  | storeDecimal x => withOperands "LD" ["B", registerName x]
  | storeRegisters x => withOperands "LD" ["[I]", registerName x]
  | loadRegisters x => withOperands "LD" [registerName x, "[I]"]
  | undefined word => withOperands "DW" [Numeral.word word.toNat]

end Instruction

end Chip8
