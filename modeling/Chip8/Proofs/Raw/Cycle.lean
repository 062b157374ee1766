import Chip8.Proofs.Raw.Machine

/-!
# Instructions and cycles of the raw machine

What instructions do to plain numbers, and how a step puts the place of an instruction into the
faults of memory, which does not know who asked.
-/

namespace Chip8.Raw

/-! ## Instructions -/

/-- Performs one instruction. Numbers are cut where they are stored, if at all. -/
def perform (opcode : Int) : Instruction → Program Unit
  | .clear => do
    clearScreen
    advance
  | .ret => do
    let address ← pop opcode
    jump address
  | .jump target => jump target.val
  | .call target => do
    push opcode ((← get).pc + 2)
    jump target.val
  | .jumpOffset target => do
    let offset ← getV 0
    jump (target.val + offset)
  | .skipIfByte x byte => do
    skipIf ((← getV x.val) = number byte)
  | .skipUnlessByte x byte => do
    skipIf ((← getV x.val) ≠ number byte)
  | .skipIfEqual x y => do
    skipIf ((← getV x.val) = (← getV y.val))
  | .skipUnlessEqual x y => do
    skipIf ((← getV x.val) ≠ (← getV y.val))
  | .skipIfDown x => do
    skipIf (← isDown opcode x.val)
  | .skipIfUp x => do
    skipIf (!(← isDown opcode x.val))
  | .loadByte x byte => do
    setV x.val (number byte)
    advance
  | .addByte x byte => do
    setV x.val (((← getV x.val) + number byte) % 256)
    advance
  | .copy x y => do
    setV x.val (← getV y.val)
    advance
  | .or x y => do
    setV x.val (Int.lor (← getV x.val) (← getV y.val))
    advance
  | .and x y => do
    setV x.val (Int.land (← getV x.val) (← getV y.val))
    advance
  | .xor x y => do
    setV x.val (Int.xor (← getV x.val) (← getV y.val))
    advance
  | .add x y => do
    let a ← getV x.val
    let b ← getV y.val
    setV x.val ((a + b) % 256)
    setFlag (255 < a + b)
    advance
  | .subtract x y => do
    let a ← getV x.val
    let b ← getV y.val
    setV x.val ((a - b) % 256)
    setFlag (b ≤ a)
    advance
  | .subtractFrom x y => do
    let a ← getV x.val
    let b ← getV y.val
    setV x.val ((b - a) % 256)
    setFlag (a ≤ b)
    advance
  | .shiftRight x => do
    let a ← getV x.val
    setV 15 (a % 2)
    setV x.val (a >>> (1 : Nat))
    advance
  | .shiftLeft x => do
    let a ← getV x.val
    setV 15 ((a >>> (7 : Nat)) % 2)
    setV x.val ((a <<< (1 : Nat)) % 256)
    advance
  | .loadIndex target => do
    setIndex target.val
    advance
  | .addIndex x => do
    let a ← getV x.val
    setIndex ((← get).index + a)
    advance
  | .loadGlyph x => do
    let digit ← getV x.val
    setIndex (glyphAddress digit)
    advance
  | .random x mask => do
    let drawn ← randomNumber
    setV x.val (Int.land (drawn % 256) (number mask))
    advance
  | .draw x y height => do
    let sprite ← readBlock height.val
    let collision ← drawSprite (← getV x.val) (← getV y.val) sprite
    setFlag collision
    advance
  | .readDelay x => do
    setV x.val (← get).delay
    advance
  | .setDelay x => do
    let a ← getV x.val
    modify ({ · with delay := a })
    advance
  | .setSound x => do
    let a ← getV x.val
    modify ({ · with sound := a })
    advance
  | .awaitKey x => do
    modify ({ · with awaitsKey := true, keyRegister := x.val })
    pollKey
  | .storeDecimal x => do
    let a ← getV x.val
    writeBlock [a / 100, a / 10 % 10, a % 10]
    advance
  | .storeRegisters x => do
    writeBlock (slice (← get).v 0 (x.val + 1))
    advance
  | .loadRegisters x => do
    let values ← readBlock (x.val + 1)
    modify fun machine => { machine with v := setSlice machine.v 0 (x.val + 1) values }
    advance
  | .undefined word => do
    fail .undefinedInstruction (some (← get).pc) (some word.toNat)

/-- Executes the instruction that the low sixteen bits of a number stand for. -/
def execute (word : Int) : Program Unit :=
  perform (word % 65536) (.decode (.ofInt word))

/-! ## Cycles -/

/-- The fault of a memory access with a place, unless it has one. -/
def Trouble.placed (pc : Int) (opcode : Option Int) : Trouble → Trouble
  | .error (.fault ⟨.memoryAccess address, none, _⟩) =>
    .error (.fault ⟨.memoryAccess address, some pc, opcode⟩)
  | trouble => trouble

/-- Reads the instruction word at the program counter. -/
def fetch : Program Int := do
  let pc := (← get).pc
  (readWord pc).adaptExcept (.placed pc none)

/-- Executes the instruction of a word that was read at an address. -/
def executeAt (pc word : Int) : Program Unit :=
  (execute word).adaptExcept (.placed pc (some word))

/-- Executes the instruction at the program counter, or polls the keypad while one waits for a
key. -/
def step : Program Unit := do
  if (← get).awaitsKey then pollKey
  else
    let pc := (← get).pc
    let word ← fetch
    executeAt pc word

/-- Runs one cycle. -/
def cycle : Program Unit := do
  step
  tick

end Chip8.Raw
