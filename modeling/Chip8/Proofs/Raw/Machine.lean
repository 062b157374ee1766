import Chip8.Machine.Perform
import Chip8.Proofs.Raw.Lists

/-!
# The raw machine

The machine once more, on plain integers and lists, with nothing kept in range by types: registers
are integers that the programs cut to eight or sixteen bits where they store them, memory is a list
in which blocks are replaced as slices, the screen is a list of rows that sprites flip in two nested
loops. Every program says what it looks at, in which order, and fails where an entry is missing.

That none ever is, and that all numbers stay in range, is not assumed here: it follows because the
raw machine does what `Machine` does (`Proofs.Raw.Execution`).
-/

namespace Chip8.Raw

/-- A machine of plain numbers and lists. -/
structure Machine where
  v : List Int
  index : Int
  pc : Int
  /-- How many return addresses are on the stack. -/
  sp : Int
  stack : List Int
  delay : Int
  sound : Int
  awaitsKey : Bool
  keyRegister : Int
  memory : List Int
  imageSize : Int
  /-- The rows of the screen, the cells of which are one or zero. -/
  pixels : List (List Int)
  isStale : Bool
  keys : List Bool
  random : RandomSource
  spritesWrap : Bool

/-- A program of the raw machine. -/
abbrev Program (α : Type) := EStateM Trouble Machine α

variable {σ α : Type}

/-- Stops with a fault, at a place if it is known. -/
def fail (cause : Fault.Cause) (pc opcode : Option Int) : EStateM Trouble σ α :=
  throw (.error (.fault { cause, pc, opcode }))

/-! ## Registers -/

/-- Reads a general register. -/
def getV (x : Int) : Program Int := do item (← get).v x

/-- Puts a number into a general register as it is. -/
def setV (x number : Int) : Program Unit := do
  let v ← setItem (← get).v x number
  modify ({ · with v })

/-- Sets the flag register to one or zero. -/
def setFlag (flag : Bool) : Program Unit := setV 15 (if flag then 1 else 0)

/-- Sets the index register to the low sixteen bits of a number. -/
def setIndex (address : Int) : Program Unit := modify ({ · with index := address % 65536 })

/-- Sets the program counter to the low sixteen bits of a number. -/
def jump (address : Int) : Program Unit := modify ({ · with pc := address % 65536 })

/-- Continues with the next instruction, or with the one behind it. -/
def skipIf (condition : Bool) : Program Unit := do
  jump ((← get).pc + if condition then 4 else 2)

/-- Continues with the next instruction. -/
def advance : Program Unit := do jump ((← get).pc + 2)

/-- Puts an address on the call stack. -/
def push (opcode address : Int) : Program Unit := do
  let machine ← get
  if 16 ≤ machine.sp then fail .stackOverflow (some machine.pc) (some opcode)
  else
    let stack ← setItem machine.stack machine.sp address
    set { machine with stack, sp := machine.sp + 1 }

/-- Takes the newest address off the call stack. -/
def pop (opcode : Int) : Program Int := do
  let machine ← get
  if machine.sp = 0 then fail .stackUnderflow (some machine.pc) (some opcode)
  else
    set { machine with sp := machine.sp - 1 }
    item machine.stack (machine.sp - 1)

/-- Counts both timers down, until they are zero. -/
def tick : Program Unit := modify fun machine =>
  { machine with
    delay := if 0 < machine.delay then machine.delay - 1 else machine.delay
    sound := if 0 < machine.sound then machine.sound - 1 else machine.sound }

/-- Clears the registers, the stack and the timers, and goes to the program area. -/
def resetProcessor : Program Unit := modify fun machine =>
  { machine with
    v := List.replicate 16 0
    index := 0
    pc := 0x200
    sp := 0
    stack := List.replicate 16 0
    delay := 0
    sound := 0
    awaitsKey := false
    keyRegister := 0 }

/-! ## Memory -/

/-- Refuses a block that leaves memory. -/
def checkBlock (address count : Int) : Program Unit :=
  if Memory.Within address count then return else fail (Memory.refusal address) none none

/-- Reads a block. -/
def readBytes (address count : Int) : Program (List Int) := do
  checkBlock address count
  return slice (← get).memory address (address + count)

/-- Reads a block from the address in the index register on. -/
def readBlock (count : Int) : Program (List Int) := do readBytes (← get).index count

/-- Reads two bytes as a number, the more significant byte first. -/
def readWord (address : Int) : Program Int := do
  checkBlock address 2
  let high ← item (← get).memory address
  let low ← item (← get).memory (address + 1)
  return Int.lor (high <<< (8 : Nat)) low

/-- Writes the low eight bits of numbers as a block. -/
def writeBytes (address : Int) (data : List Int) : Program Unit := do
  let bytes := data.map (· % 256)
  checkBlock address bytes.length
  modify fun machine =>
    { machine with
      memory := setSlice machine.memory address (address + bytes.length) bytes }

/-- Writes a block from the address in the index register on. -/
def writeBlock (data : List Int) : Program Unit := do writeBytes (← get).index data

/-- Writes the low eight bits of a number. -/
def write (address number : Int) : Program Unit := do
  checkBlock address 1
  let memory ← setByte (← get).memory address (number % 256)
  modify ({ · with memory })

/-- Places an image in the program area. -/
def loadRom (rom : List UInt8) : Program Unit :=
  if 3584 < rom.length then throw (.error (.load { failure := .tooLarge rom.length }))
  else modify fun machine =>
    { machine with
      memory := setSlice machine.memory 0x200 (0x200 + rom.length) (numbers rom)
      imageSize := rom.length }

/-- Memory that holds the font and zeros. -/
def blankMemory : List Int := setSlice (List.replicate 4096 0) 0 80 (numbers font)

/-- Empties memory and places the font. -/
def resetMemory : Program Unit :=
  modify ({ · with memory := blankMemory, imageSize := 0 })

/-! ## Screen -/

/-- Turns the screen dark, row by row. -/
def clearScreen : Program Unit := modify fun machine =>
  { machine with
    pixels := machine.pixels.map fun _ => List.replicate 64 0
    isStale := true }

/-- Flips a cell, and says whether there was a collision before or now. -/
def flipCell (column row : Int) (collision : Bool) : Program Bool := do
  let machine ← get
  let line ← item machine.pixels row
  let cell ← item line column
  let flipped ← setByte line column (Int.xor cell 1)
  let pixels ← setItem machine.pixels row flipped
  set { machine with pixels }
  return collision || cell != 0

/-- Draws the bits of a sprite row in a row of the screen. Without wrapping, the first set bit past
the right edge ends the row. -/
def drawRow (wrap : Bool) (x row sprite : Int) : List Nat → Bool → Program Bool
  | [], collision => return collision
  | bit :: bits, collision => do
    if (sprite >>> (7 - bit : Nat)) % 2 = 0 then drawRow wrap x row sprite bits collision
    else if x + bit < 64 then
      let collision ← flipCell (x + bit) row collision
      drawRow wrap x row sprite bits collision
    else if wrap then
      let collision ← flipCell ((x + bit) % 64) row collision
      drawRow wrap x row sprite bits collision
    else return collision

/-- Draws sprite rows from a row of the screen on. Without wrapping, the first row past the bottom
edge ends the sprite. -/
def drawRows (wrap : Bool) (x y : Int) : List Int → Bool → Program Bool
  | [], collision => return collision
  | sprite :: sprites, collision => do
    if y < 32 then
      let collision ← drawRow wrap x y sprite (List.range 8) collision
      drawRows wrap x (y + 1) sprites collision
    else if wrap then
      let collision ← drawRow wrap x (y % 32) sprite (List.range 8) collision
      drawRows wrap x (y + 1) sprites collision
    else return collision

/-- Draws a sprite with its origin taken modulo the size of the screen, and says whether a cell was
turned off. -/
def draw (x y : Int) (sprites : List Int) (wrap : Bool) : Program Bool := do
  let collision ← drawRows wrap (x % 64) (y % 32) sprites false
  modify ({ · with isStale := true })
  return collision

/-- Draws a sprite as the machine is set up. -/
def drawSprite (x y : Int) (sprites : List Int) : Program Bool := do
  draw x y sprites (← get).spritesWrap

/-! ## Random numbers -/

/-- Draws a number from a source: the top eight bits of a random word, or any number. -/
def nextNumber : RandomSource → Int × RandomSource
  | ⟨.twister twister, drawn⟩ =>
    let (word, twister) := twister.next
    ((word >>> 24).toNat, ⟨.twister twister, drawn + 1⟩)
  | ⟨.stream number, drawn⟩ => (number drawn, ⟨.stream number, drawn + 1⟩)

/-- Draws a random number. -/
def randomNumber : Program Int := do
  let machine ← get
  let (number, random) := nextNumber machine.random
  set { machine with random }
  return number

/-! ## Keys -/

/-- Sets all keys, of which there must be sixteen. -/
def setKeys (states : List Bool) : Program Unit :=
  if states.length ≠ 16 then throw (.error (.misuse (.latchLength states.length)))
  else modify ({ · with keys := states })

/-- Puts the key that a host refers to down or up. -/
def setKey (reference : KeyReference) (isDown : Bool) : Program Unit := do
  match reference.resolve with
  | .error misuse => throw (.error (.misuse misuse))
  | .ok key =>
    let keys ← setItem (← get).keys key.val isDown
    modify ({ · with keys })

/-- Puts all keys up. -/
def releaseAll : Program Unit := modify ({ · with keys := List.replicate 16 false })

/-- Whether the key whose code is in a register is down. -/
def isDown (opcode x : Int) : Program Bool := do
  let key ← getV x
  if 16 ≤ key then fail (.invalidKey key) (some (← get).pc) (some opcode)
  else item (← get).keys key

/-- Ends a wait for a key if a key is down. -/
def pollKey : Program Unit := do
  let machine ← get
  match machine.keys.findIdx? (· = true) with
  | some key =>
    setV machine.keyRegister key
    modify ({ · with awaitsKey := false })
    advance
  | none => return

/-! ## Power-on -/

/-- The machine at power-on, with no image in memory. -/
def Machine.bare (random : RandomSource) (spritesWrap : Bool) : Machine where
  v := List.replicate 16 0
  index := 0
  pc := 0x200
  sp := 0
  stack := List.replicate 16 0
  delay := 0
  sound := 0
  awaitsKey := false
  keyRegister := 0
  memory := blankMemory
  imageSize := 0
  pixels := List.replicate 32 (List.replicate 64 0)
  isStale := true
  keys := List.replicate 16 false
  random
  spritesWrap

/-- The machine at power-on, with an image in memory if it has bytes. -/
def Machine.powerOn (rom : List UInt8) (random : RandomSource) (spritesWrap : Bool) :
    Except Trouble Machine :=
  if rom.isEmpty then .ok (.bare random spritesWrap)
  else
    match loadRom rom (.bare random spritesWrap) with
    | .ok _ machine => .ok machine
    | .error trouble _ => .error trouble

end Chip8.Raw
