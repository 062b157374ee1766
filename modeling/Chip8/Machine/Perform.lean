import Chip8.Machine.Action

/-!
# What instructions do

Each instruction as a sequence of actions. Every one of them sets the program counter itself, and
every check that can fault comes before the first change.
-/

namespace Chip8.Machine

open Chip8.Machine.Action

/-- Performs one instruction. -/
def perform : Instruction → Action Unit
  | .clear => do
    clearScreen
    advance
  | .ret => do
    let address ← pop
    jump address
  | .jump target => jump target
  | .call target => do
    push ((← get).processor.pc.toNat + 2)
    jump target
  | .jumpOffset target => do
    let offset ← getV .offset
    jump (target + offset.toNat)
  | .skipIfByte x byte => do
    skipIf ((← getV x) = byte)
  | .skipUnlessByte x byte => do
    skipIf ((← getV x) ≠ byte)
  | .skipIfEqual x y => do
    skipIf ((← getV x) = (← getV y))
  | .skipUnlessEqual x y => do
    skipIf ((← getV x) ≠ (← getV y))
  | .skipIfDown x => do
    skipIf (← isDown x)
  | .skipIfUp x => do
    skipIf (!(← isDown x))
  | .loadByte x byte => do
    setV x byte
    advance
  | .addByte x byte => do
    setV x ((← getV x) + byte)
    advance
  | .copy x y => do
    setV x (← getV y)
    advance
  | .or x y => do
    setV x ((← getV x) ||| (← getV y))
    advance
  | .and x y => do
    setV x ((← getV x) &&& (← getV y))
    advance
  | .xor x y => do
    setV x ((← getV x) ^^^ (← getV y))
    advance
  | .add x y => do
    let a ← getV x
    let b ← getV y
    setV x (a + b)
    setFlag (255 < a.toNat + b.toNat)
    advance
  | .subtract x y => do
    let a ← getV x
    let b ← getV y
    setV x (a - b)
    setFlag (b ≤ a)
    advance
  | .subtractFrom x y => do
    let a ← getV x
    let b ← getV y
    setV x (b - a)
    setFlag (a ≤ b)
    advance
  | .shiftRight x => do
    let a ← getV x
    setFlag (a.toNat % 2 = 1)
    setV x (a >>> 1)
    advance
  | .shiftLeft x => do
    let a ← getV x
    setFlag (128 ≤ a.toNat)
    setV x (a <<< 1)
    advance
  | .loadIndex target => do
    setIndex (UInt16.ofNat target)
    advance
  | .addIndex x => do
    let a ← getV x
    setIndex ((← get).processor.index + a.toUInt16)
    advance
  | .loadGlyph x => do
    let digit ← getV x
    setIndex (UInt16.ofInt (glyphAddress digit.toNat))
    advance
  | .random x mask => do
    setV x ((← randomByte) &&& mask)
    advance
  | .draw x y height => do
    let sprite ← readBlock height
    let collision ← drawSprite (← getV x) (← getV y) sprite
    setFlag collision
    advance
  | .readDelay x => do
    setV x (← get).processor.delay
    advance
  | .setDelay x => do
    let a ← getV x
    update ({ · with delay := a })
    advance
  | .setSound x => do
    let a ← getV x
    update ({ · with sound := a })
    advance
  | .awaitKey x => awaitKey x
  | .storeDecimal x => do
    let a ← getV x
    writeBlock [a / 100, a / 10 % 10, a % 10]
    advance
  | .storeRegisters x => do
    writeBlock ((← get).processor.v.toList.take (x + 1))
    advance
  | .loadRegisters x => do
    let bytes ← readBlock (x + 1)
    update fun processor => { processor with v := overwrite processor.v 0 bytes }
    advance
  | .undefined _ => throw .undefinedInstruction

end Chip8.Machine
