import Chip8.Machine.Basic

/-!
# Actions of the machine

What instructions are made of. An action changes the machine and may stop with a fault; the
changes made before the fault remain, so the order of actions matters and an instruction that is
to have no effect when it faults has to fault first.
-/

namespace Chip8

/-- A change of the machine that gives a result or a fault. -/
abbrev Machine.Action (α : Type) := EStateM Fault.Cause Machine α

namespace Machine.Action

/-! ## Registers -/

/-- A general register. -/
def getV (x : Register) : Action UInt8 := do
  return (← get).processor.getV x

/-- Changes the processor. -/
def update (f : Processor → Processor) : Action Unit :=
  modify fun machine => machine.mapProcessor f

/-- Sets a general register. -/
def setV (x : Register) (byte : UInt8) : Action Unit :=
  update (·.setV x byte)

/-- Sets the flag register to one or zero. -/
def setFlag (flag : Bool) : Action Unit :=
  setV .flag (if flag then 1 else 0)

/-- Sets the index register. -/
def setIndex (index : UInt16) : Action Unit :=
  update ({ · with index })

/-! ## Control -/

/-- Continues with the next instruction. -/
def advance : Action Unit := update .advance

/-- Continues with the next instruction, or with the one behind it. -/
def skipIf (condition : Bool) : Action Unit := update (·.skipIf condition)

/-- Continues at an address. -/
def jump (address : Nat) : Action Unit := update (·.jump address)

/-- Puts an address on the call stack. -/
def push (address : Nat) : Action Unit := do
  match (← get).processor.stack.push? address with
  | some stack => update ({ · with stack })
  | none => throw .stackOverflow

/-- Takes the newest address off the call stack. -/
def pop : Action Nat := do
  match (← get).processor.stack.pop? with
  | some (address, stack) =>
    update ({ · with stack })
    return address
  | none => throw .stackUnderflow

/-! ## Memory -/

/-- Reads bytes from the address in the index register on. -/
def readBlock (count : Nat) : Action (List UInt8) := do
  let machine ← get
  match machine.memory.readBytes machine.processor.index.toNat count with
  | .ok bytes => return bytes
  | .error cause => throw cause

/-- Writes bytes from the address in the index register on. -/
def writeBlock (bytes : List UInt8) : Action Unit := fun machine =>
  let ⟨processor, memory, screen, keypad, random, spritesWrap⟩ := machine
  match memory.writeBytes processor.index.toNat bytes with
  | .ok memory => .ok () ⟨processor, memory, screen, keypad, random, spritesWrap⟩
  | .error cause => .error cause machine

/-! ## Screen, random bytes and keys -/

/-- Turns the screen dark. -/
def clearScreen : Action Unit :=
  modify ({ · with screen := .blank })

/-- Draws a sprite, and says whether it collided. -/
def drawSprite (x y : UInt8) (sprite : List UInt8) : Action Bool := fun machine =>
  let ⟨processor, memory, screen, keypad, random, spritesWrap⟩ := machine
  let rows := sprite.map fun byte => (byte.toNat : Int)
  let (collision, screen) := screen.draw x.toNat y.toNat rows spritesWrap
  .ok collision ⟨processor, memory, screen, keypad, random, spritesWrap⟩

/-- Draws a random byte. -/
def randomByte : Action UInt8 := fun machine =>
  let ⟨processor, memory, screen, keypad, random, spritesWrap⟩ := machine
  let (byte, random) := random.next
  .ok byte ⟨processor, memory, screen, keypad, random, spritesWrap⟩

/-- Whether the key whose code is in a register is down. -/
def isDown (x : Register) : Action Bool := do
  let code ← getV x
  if h : code.toNat < 16 then return (← get).keypad.isDown ⟨code.toNat, h⟩
  else throw (.invalidKey code.toNat)

/-- Ends a wait for a key if a key is down: the register takes the least code, and the machine
goes on. -/
def pollKey : Action Unit := do
  let machine ← get
  match machine.keypad.lowestDown? with
  | some key =>
    setV machine.processor.keyRegister (UInt8.ofNat key)
    update ({ · with awaitsKey := false })
    advance
  | none => return

/-- Begins to wait for a key, or takes one that is down already. -/
def awaitKey (x : Register) : Action Unit := do
  update ({ · with awaitsKey := true, keyRegister := x })
  pollKey

end Machine.Action

end Chip8
