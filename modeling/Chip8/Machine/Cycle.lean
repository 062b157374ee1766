import Chip8.Machine.Perform

/-!
# Cycles

A cycle executes the instruction at the program counter, or polls the keypad while an instruction
waits for a key, and then counts the timers down. Faults are reported with the place where they
arose. A gate may watch: it is asked before a fetched instruction is executed, and if it refuses,
nothing happens.
-/

namespace Chip8

/-- A fault as the instruction that caused it reports it. Memory does not know who asked, so its
faults carry no place. -/
def Fault.Cause.reported (cause : Fault.Cause) (pc word : UInt16) : Fault :=
  match cause with
  | .memoryAccess _ => { cause }
  | _ => { cause, pc := some pc.toNat, opcode := some word.toNat }

/-- A fault with the place of the instruction that caused it. -/
def Fault.Cause.located (cause : Fault.Cause) (pc word : UInt16) : Fault :=
  { cause, pc := some pc.toNat, opcode := some word.toNat }

namespace Machine

/-- Executes the instruction of a word at the program counter, whatever memory holds there. -/
def execute (word : UInt16) : EStateM Fault Machine Unit := fun machine =>
  let pc := machine.processor.pc
  (perform (Instruction.decode word)).adaptExcept (·.reported pc word) machine

/-- Executes the instruction at the program counter, or polls the keypad while one waits for a
key. -/
def step : EStateM Fault Machine Unit := fun machine =>
  if machine.isWaiting then Action.pollKey.adaptExcept ({ cause := · }) machine
  else
    match machine.fetch with
    | .error fault => .error fault machine
    | .ok word =>
      let pc := machine.processor.pc
      (perform (Instruction.decode word)).adaptExcept (·.located pc word) machine

/-- Runs one cycle. -/
def cycle : EStateM Fault Machine Unit := do
  step
  modify tick

/-! ## Gates -/

/-- Decides, from the address and word of an instruction, whether it may be executed. It may keep
records. -/
abbrev Gate (σ : Type) := UInt16 → UInt16 → σ → Bool × σ

/-- Asks a gate about the instruction that is about to be executed. Nothing is asked while the
machine waits for a key, nor if no instruction can be read. -/
def ask {σ : Type} (machine : Machine) (gate : Gate σ) (records : σ) : Bool × σ :=
  match machine.upcoming? with
  | some word => gate machine.processor.pc word records
  | none => (true, records)

/-- Executes one instruction if the gate admits it, and says whether it did. -/
def stepGated {σ : Type} (gate : Gate σ) : EStateM Fault (Machine × σ) Bool :=
  fun (machine, records) =>
    match machine.ask gate records with
    | (false, records) => .ok false (machine, records)
    | (true, records) =>
      match step machine with
      | .ok () machine => .ok true (machine, records)
      | .error fault machine => .error fault (machine, records)

/-- Runs one cycle if the gate admits it, and says whether it did. Without it the timers stand
still. -/
def cycleGated {σ : Type} (gate : Gate σ) : EStateM Fault (Machine × σ) Bool := do
  let admitted ← stepGated gate
  if admitted then modify fun (machine, records) => (machine.tick, records)
  return admitted

end Machine

end Chip8
