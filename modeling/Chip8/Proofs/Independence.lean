import Chip8.Proofs.Raw.View

/-!
# What actions do not look at

A machine may be changed in a part that an action neither reads nor writes. Then the action does the
same before and after the change (`Ignores`). For the actions that look at what they find this takes
that the change leaves alone what they read, and what they write can be written before it as well as
after (`Unseen`).
-/

namespace Chip8.Machine

open Raw (Mirrors)

variable {α : Type} {change : Machine → Machine}

/-- It makes no difference to an action whether the machine is changed before it or after it. -/
abbrev Ignores (change : Machine → Machine) (action : Action α) : Prop :=
  Mirrors change (fun cause _ => cause) id action action

/-- A change leaves alone what actions read before they go on. -/
structure Unseen (change : Machine → Machine) : Prop where
  getV : ∀ machine x, (change machine).processor.getV x = machine.processor.getV x
  index : ∀ machine, (change machine).processor.index = machine.processor.index
  stack : ∀ machine, (change machine).processor.stack = machine.processor.stack
  memory : ∀ machine, (change machine).memory = machine.memory
  keypad : ∀ machine, (change machine).keypad = machine.keypad
  withStack : ∀ machine stack, (change machine).mapProcessor ({ · with stack }) =
    change (machine.mapProcessor ({ · with stack }))
  withMemory : ∀ machine memory, { change machine with memory } = change { machine with memory }

namespace Unseen

variable (unseen : Unseen change)
include unseen

lemma pop : Ignores change Action.pop := by
  intro machine
  rw [run_pop, run_pop, unseen.stack]
  cases machine.processor.stack.pop? with
  | none => rfl
  | some top => exact congrArg _ (unseen.withStack machine top.2)

lemma push (address : Nat) : Ignores change (Action.push address) := by
  intro machine
  rw [run_push, run_push, unseen.stack]
  cases machine.processor.stack.push? address with
  | none => rfl
  | some stack => exact congrArg _ (unseen.withStack machine stack)

lemma isDown (x : Register) : Ignores change (Action.isDown x) := by
  intro machine
  rw [run_isDown, run_isDown, unseen.getV, unseen.keypad]
  split <;> rfl

lemma readBlock (count : Nat) : Ignores change (Action.readBlock count) := by
  intro machine
  rw [run_readBlock, run_readBlock, unseen.memory, unseen.index]
  cases machine.memory.readBytes machine.processor.index.toNat count <;> rfl

lemma writeBlock (bytes : List UInt8) : Ignores change (Action.writeBlock bytes) := by
  intro machine
  rw [run_writeBlock, run_writeBlock, unseen.memory, unseen.index]
  cases machine.memory.writeBytes machine.processor.index.toNat bytes with
  | error cause => rfl
  | ok memory => exact congrArg _ (unseen.withMemory machine memory)

end Unseen

end Chip8.Machine
