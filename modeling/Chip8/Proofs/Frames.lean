import Chip8.Proofs.Execution

/-!
# What instructions leave alone

Some parts of the machine have a few instructions that are there to change them, and all others leave
them as they were. `Footprint` says so part by part, of a change from one machine to another. An
instruction is performed within its footprint whether it faults or not (`footprint_perform`), and so
is a step (`footprint_step`). The keypad is in no footprint: only the host presses keys.

`Keeps part action` says that an action leaves a part of the machine as it was, also when it faults.
It is closed under sequencing, so what an instruction keeps follows from what its actions keep. The
source of random bytes, memory and the screen are kept by all instructions but those that take a byte
from the first, write to the second and paint the third (`keeps_perform`).
-/

namespace Chip8

variable {α β γ : Type}

namespace Machine

/-! ## Actions -/

/-- An action leaves a part of the machine as it was. -/
def Keeps (part : Machine → γ) (action : Action α) : Prop :=
  ∀ machine, part (leaves (action machine)) = part machine

/-- A program keeps a part if its first action does, on this machine, and the rest does on all. -/
lemma leaves_bind {part : Machine → γ} {action : Action α} {next : α → Action β} {machine : Machine}
    (first : part (leaves (action machine)) = part machine) (rest : ∀ a, Keeps part (next a)) :
    part (leaves ((action >>= next) machine)) = part machine := by
  rw [run_bind, ← first]
  cases action machine with
  | ok a after => exact rest a after
  | error cause after => rfl

lemma Keeps.bind {part : Machine → γ} {action : Action α} {next : α → Action β}
    (first : Keeps part action) (rest : ∀ a, Keeps part (next a)) :
    Keeps part (action >>= next) :=
  fun machine => leaves_bind (first machine) rest

lemma keeps_isDown (part : Machine → γ) (x : Register) : Keeps part (Action.isDown x) := by
  intro machine
  rw [run_isDown]
  split <;> rfl

lemma keeps_readBlock (part : Machine → γ) (count : Nat) :
    Keeps part (Action.readBlock count) := by
  intro machine
  rw [run_readBlock]
  cases machine.memory.readBytes machine.processor.index.toNat count <;> rfl

/-- Writing to memory leaves alone what does not depend on memory. -/
lemma keeps_writeBlock (part : Machine → γ)
    (apart : ∀ (machine : Machine) (memory : Memory), part { machine with memory } = part machine)
    (bytes : List UInt8) : Keeps part (Action.writeBlock bytes) := by
  intro machine
  rw [run_writeBlock]
  cases machine.memory.writeBytes machine.processor.index.toNat bytes with
  | ok memory => exact apart machine memory
  | error cause => rfl

/-- Polling the keypad leaves alone what does not depend on the processor. -/
lemma keeps_pollKey (part : Machine → γ)
    (apart : ∀ (machine : Machine) (processor : Processor),
      part { machine with processor } = part machine) : Keeps part Action.pollKey := by
  intro machine
  rw [run_pollKey]
  cases machine.keypad.lowestDown? with
  | none => rfl
  | some key => exact apart machine _

end Machine

/-! ## Taking, writing and painting -/

/-- Whether an instruction takes a random byte. -/
def Instruction.isRandom : Instruction → Bool
  | random _ _ => true
  | _ => false

/-- Whether an instruction writes to memory. -/
def Instruction.stores : Instruction → Bool
  | storeDecimal _ | storeRegisters _ => true
  | _ => false

/-- Whether an instruction changes the screen. -/
def Instruction.paints : Instruction → Bool
  | clear | draw _ _ _ => true
  | _ => false

namespace Machine

variable {instruction : Instruction}

/-- An instruction leaves alone what does not depend on the processor, unless it takes a random byte
from it, writes to it or paints it. -/
theorem keeps_perform (part : Machine → γ)
    (apart : ∀ (machine : Machine) processor, part { machine with processor } = part machine)
    (taken : instruction.isRandom = true →
      ∀ (machine : Machine) random, part { machine with random } = part machine)
    (stored : instruction.stores = true →
      ∀ (machine : Machine) memory, part { machine with memory } = part machine)
    (painted : instruction.paints = true →
      ∀ (machine : Machine) screen, part { machine with screen } = part machine) :
    Keeps part (perform instruction) := by
  cases instruction
  case clear =>
    exact fun machine => (apart { machine with screen := .blank } _).trans (painted rfl machine .blank)
  case ret =>
    intro machine
    rw [perform, run_bind, run_pop]
    cases machine.processor.stack.pop? with
    | none => rfl
    | some top => exact apart machine _
  case call target =>
    intro machine
    rw [perform, run_bind, run_get]
    dsimp only
    rw [run_bind, run_push]
    cases machine.processor.stack.push? (machine.processor.pc.toNat + 2) with
    | none => rfl
    | some stack => exact apart machine _
  case skipIfDown x => exact (keeps_isDown part x).bind fun _ machine => apart machine _
  case skipIfUp x => exact (keeps_isDown part x).bind fun _ machine => apart machine _
  case random x mask =>
    exact fun machine =>
      (apart { machine with random := machine.random.next.2 } _).trans (taken rfl machine _)
  case draw x y height =>
    refine (keeps_readBlock part height).bind fun sprite machine => ?_
    have drawn (a b : UInt8) : Keeps part (Action.drawSprite a b sprite) := fun machine =>
      painted rfl machine _
    have rest (collision : Bool) :
        Keeps part (Action.setFlag collision >>= fun _ => Action.advance) := fun machine =>
      apart machine _
    exact ((drawn (machine.processor.getV x) (machine.processor.getV y)).bind rest) machine
  case storeDecimal x =>
    intro machine
    rw [perform, run_bind, run_getV]
    exact ((keeps_writeBlock part (stored rfl) _).bind fun _ machine => apart machine _) machine
  case storeRegisters x =>
    intro machine
    rw [perform, run_bind, run_get]
    exact ((keeps_writeBlock part (stored rfl) _).bind fun _ machine => apart machine _) machine
  case loadRegisters x => exact (keeps_readBlock part (x + 1)).bind fun _ machine => apart machine _
  case awaitKey x =>
    intro machine
    exact (keeps_pollKey part apart _).trans (apart machine _)
  all_goals exact fun machine => apart machine _

/-! ## Footprints -/

/-- The parts of a machine that at most two instructions change. -/
def rareParts (machine : Machine) : Keypad × Bool × CallStack × UInt8 × UInt8 × Bool :=
  (machine.keypad, machine.spritesWrap, machine.processor.stack, machine.processor.delay,
    machine.processor.sound, machine.isWaiting)

/-- Of these parts nothing has changed but what an instruction may change. -/
structure Footprint (instruction : Instruction) (machine after : Machine) : Prop where
  keypad : after.keypad = machine.keypad
  spritesWrap : after.spritesWrap = machine.spritesWrap
  stack : (∀ target, instruction ≠ .call target) → instruction ≠ .ret →
    after.processor.stack = machine.processor.stack
  delay : (∀ x, instruction ≠ .setDelay x) → after.processor.delay = machine.processor.delay
  sound : (∀ x, instruction ≠ .setSound x) → after.processor.sound = machine.processor.sound
  wait : (∀ x, instruction ≠ .awaitKey x) → after.isWaiting = machine.isWaiting

variable {machine after : Machine}

/-- Whatever changes none of these parts is in every footprint. -/
lemma Footprint.of_rareParts (instruction : Instruction) (same : after.rareParts = machine.rareParts) :
    Footprint instruction machine after := by
  simp only [rareParts, Prod.mk.injEq] at same
  obtain ⟨keypad, spritesWrap, stack, delay, sound, wait⟩ := same
  exact ⟨keypad, spritesWrap, fun _ _ => stack, fun _ => delay, fun _ => sound, fun _ => wait⟩

/-- Polling the keypad is within the footprint of the instruction that waits. -/
lemma footprint_pollKey (x : Register) (machine : Machine) :
    Footprint (.awaitKey x) machine (leaves (Action.pollKey machine)) := by
  rw [run_pollKey]
  cases machine.keypad.lowestDown? with
  | none => exact .of_rareParts _ rfl
  | some key =>
    have awaits (other : ∀ y, Instruction.awaitKey x ≠ .awaitKey y) : False := other x rfl
    exact ⟨rfl, rfl, fun _ _ => rfl, fun _ => rfl, fun _ => rfl, fun other => (awaits other).elim⟩

/-- Instructions keep within their footprints. -/
theorem footprint_perform (instruction : Instruction) (machine : Machine) :
    Footprint instruction machine (leaves (perform instruction machine)) := by
  have memories (machine : Machine) (memory : Memory) :
      rareParts { machine with memory } = machine.rareParts := rfl
  -- The instructions that can fault stay within their footprints by way of their first action, which
  -- may end them early. Those that cannot are computed.
  cases instruction
  case ret =>
    rw [perform, run_bind, run_pop]
    cases machine.processor.stack.pop? with
    | none => exact .of_rareParts _ rfl
    | some top =>
      exact ⟨rfl, rfl, fun _ other => absurd rfl other, fun _ => rfl, fun _ => rfl, fun _ => rfl⟩
  case call target =>
    rw [perform, run_bind, run_get]
    dsimp only
    rw [run_bind, run_push]
    cases machine.processor.stack.push? (machine.processor.pc.toNat + 2) with
    | none => exact .of_rareParts _ rfl
    | some stack =>
      exact ⟨rfl, rfl, fun other _ => absurd rfl (other target), fun _ => rfl, fun _ => rfl,
        fun _ => rfl⟩
  case skipIfDown x =>
    exact .of_rareParts _ (((keeps_isDown rareParts x).bind fun _ _ => rfl) machine)
  case skipIfUp x =>
    exact .of_rareParts _ (((keeps_isDown rareParts x).bind fun _ _ => rfl) machine)
  case draw x y height =>
    exact .of_rareParts _ (((keeps_readBlock rareParts height).bind fun _ _ => rfl) machine)
  case storeDecimal x =>
    rw [perform, run_bind, run_getV]
    exact .of_rareParts _ (((keeps_writeBlock rareParts memories _).bind fun _ _ => rfl) machine)
  case storeRegisters x =>
    rw [perform, run_bind, run_get]
    exact .of_rareParts _ (((keeps_writeBlock rareParts memories _).bind fun _ _ => rfl) machine)
  case loadRegisters x =>
    exact .of_rareParts _ (((keeps_readBlock rareParts (x + 1)).bind fun _ _ => rfl) machine)
  case awaitKey x =>
    obtain ⟨keypad, spritesWrap, stack, delay, sound, -⟩ :=
      footprint_pollKey x (machine.mapProcessor ({ · with awaitsKey := true, keyRegister := x }))
    exact ⟨keypad, spritesWrap, stack, delay, sound, fun other => absurd rfl (other x)⟩
  case setDelay x =>
    exact ⟨rfl, rfl, fun _ _ => rfl, fun other => absurd rfl (other x), fun _ => rfl, fun _ => rfl⟩
  case setSound x =>
    exact ⟨rfl, rfl, fun _ _ => rfl, fun _ => rfl, fun other => absurd rfl (other x), fun _ => rfl⟩
  all_goals exact .of_rareParts _ rfl

lemma Executes.footprint (executed : machine.Executes instruction after) :
    ∃ between, Footprint instruction machine between ∧ after = between.tick := by
  obtain ⟨between, performed, rfl⟩ := executed.performed
  have within := footprint_perform instruction machine
  rw [performed] at within
  exact ⟨between, within, rfl⟩

/-! ## Steps -/

/-- A step is within the footprint of the instruction that it performs or that waits. -/
theorem footprint_step (stepped : step machine = .ok () after) :
    ∃ instruction, Footprint instruction machine after ∧
      ((machine.isWaiting = true ∧ ∃ x, instruction = .awaitKey x) ∨
        ∃ word, machine.upcoming? = some word ∧ instruction = Instruction.decode word) := by
  rcases step_completes_cases stepped with ⟨waits, polled⟩ | ⟨word, upcoming, performed⟩
  · have within := footprint_pollKey .first machine
    rw [polled] at within
    exact ⟨_, within, .inl ⟨waits, _, rfl⟩⟩
  · have within := footprint_perform (Instruction.decode word) machine
    rw [performed] at within
    exact ⟨_, within, .inr ⟨word, upcoming, rfl⟩⟩

/-- A step presses and releases no key. -/
theorem keypad_of_step (stepped : step machine = .ok () after) : after.keypad = machine.keypad := by
  obtain ⟨instruction, within, -⟩ := footprint_step stepped
  exact within.keypad

end Machine

end Chip8
