import Chip8.CallStack
import Chip8.Instruction.Decode
import Chip8.Keypad
import Chip8.Memory
import Chip8.Place
import Chip8.Random
import Chip8.RegisterDump
import Chip8.Screen.Sprite

/-!
# The machine

The processor has sixteen general registers of eight bits, an index register and a program counter
of sixteen, the call stack and two timers. While an instruction waits for a key, the processor
remembers which register the key is for, and keeps it when the wait is over. Together with memory,
screen, keypad and a source of random bytes it makes the machine.
-/

namespace Chip8

/-! ## The processor -/

/-- The registers of the processor. -/
structure Processor where
  v : Vector UInt8 16
  index : UInt16
  pc : UInt16
  stack : CallStack
  delay : UInt8
  sound : UInt8
  awaitsKey : Bool
  /-- Where the key goes, as the last wait has set it. -/
  keyRegister : Register
deriving DecidableEq

namespace Processor

/-- The processor at power-on: everything is zero, and the program begins at `0x200`. -/
def powerOn : Processor where
  v := Vector.replicate 16 0
  index := 0
  pc := 0x200
  stack := .empty
  delay := 0
  sound := 0
  awaitsKey := false
  keyRegister := .first

/-- A general register. -/
def getV (processor : Processor) (x : Register) : UInt8 := processor.v[x]

/-- Sets a general register. -/
def setV (processor : Processor) (x : Register) (byte : UInt8) : Processor :=
  { processor with v := processor.v.set x byte }

/-- Continues at an address, of which the low sixteen bits count. -/
def jump (processor : Processor) (address : Nat) : Processor :=
  { processor with pc := UInt16.ofNat address }

/-- Continues with the next instruction. -/
def advance (processor : Processor) : Processor :=
  { processor with pc := processor.pc + 2 }

/-- Continues with the next instruction, or with the one behind it. -/
def skipIf (processor : Processor) (condition : Bool) : Processor :=
  { processor with pc := processor.pc + if condition then 4 else 2 }

/-- Counts both timers down, until they are zero. -/
def tick (processor : Processor) : Processor :=
  { processor with
    delay := if processor.delay = 0 then 0 else processor.delay - 1
    sound := if processor.sound = 0 then 0 else processor.sound - 1 }

/-- Whether the sound timer runs, so that the host should beep. -/
def isBeeping (processor : Processor) : Bool := processor.sound ≠ 0

/-! ### Access for hosts -/

/-- Sets a general register to the low eight bits of a number. Registers from -16 to -1 count back
from the last one. -/
def assignV (processor : Processor) (register number : Int) : Except Misuse Processor :=
  match Place.ofIndex? register with
  | some x => .ok (processor.setV x (.ofInt number))
  | none => .error (.registerIndex register)

/-- The registers besides the general ones that a host can set. -/
inductive Special
  | index
  | pc
  | delay
  | sound
deriving DecidableEq, Repr

/-- Sets a special register to as many low bits of a number as it holds. -/
def assign (processor : Processor) (register : Special) (number : Int) : Processor :=
  match register with
  | .index => { processor with index := .ofInt number }
  | .pc => { processor with pc := .ofInt number }
  | .delay => { processor with delay := .ofInt number }
  | .sound => { processor with sound := .ofInt number }

/-- The values of all registers. -/
def dump (processor : Processor) : RegisterDump where
  v := processor.v.map fun byte => byte.toNat
  pc := processor.pc.toNat
  index := processor.index.toNat
  depth := .ofNat processor.stack.depth (Nat.lt_of_le_of_lt processor.stack.depth_le (by decide))
  delay := .ofByte processor.delay
  sound := .ofByte processor.sound
  waiting := processor.awaitsKey

end Processor

/-! ## The machine -/

/-- The processor and all that it works on. -/
structure Machine where
  processor : Processor
  memory : Memory
  screen : Screen
  keypad : Keypad
  random : RandomSource
  spritesWrap : Bool

namespace Machine

/-- The machine at power-on, with a program in memory. -/
def powerOn (rom : Rom) (random : RandomSource) (spritesWrap : Bool) : Machine where
  processor := .powerOn
  memory := Memory.blank.load rom
  screen := .blank
  keypad := .released
  random
  spritesWrap

/-- Changes the processor. -/
def mapProcessor (machine : Machine) (f : Processor → Processor) : Machine :=
  let ⟨processor, memory, screen, keypad, random, spritesWrap⟩ := machine
  ⟨f processor, memory, screen, keypad, random, spritesWrap⟩

/-- Whether an instruction waits for a key. -/
def isWaiting (machine : Machine) : Bool := machine.processor.awaitsKey

/-- Counts both timers down. -/
def tick (machine : Machine) : Machine := machine.mapProcessor .tick

/-- Reads the instruction word at the program counter. -/
def fetch (machine : Machine) : Except Fault UInt16 :=
  (machine.memory.readWord machine.processor.pc.toNat).mapError
    ({ cause := ·, pc := some machine.processor.pc.toNat })

/-- The instruction word that is about to be executed: none while the machine waits for a key, or
if no word can be read. -/
def upcoming? (machine : Machine) : Option UInt16 :=
  if machine.isWaiting then none else machine.fetch.toOption

end Machine

end Chip8
