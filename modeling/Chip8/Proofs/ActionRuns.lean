import Chip8.Machine.Cycle
import Mathlib

/-!
# Running programs and actions

How the programs of a state monad with errors run, one equation for each way to build them, and how
the actions of the machine run that look at what they find. Proofs that follow a program step by
step rewrite with these and unfold nothing else.
-/

namespace Chip8

variable {ε ε' σ α β : Type}

/-! ## Programs -/

/-- The state that a program leaves, whether it succeeds or not. -/
def leaves : EStateM.Result ε σ α → σ
  | .ok _ s => s
  | .error _ s => s

lemma run_pure (a : α) (s : σ) : (pure a : EStateM ε σ α) s = .ok a s := rfl

-- Not proved by `rfl`: a rewrite with it must not make the kernel run the program.
lemma run_bind (program : EStateM ε σ α) (next : α → EStateM ε σ β) (s : σ) :
    (program >>= next) s = match program s with
      | .ok a s' => next a s'
      | .error e s' => .error e s' := by
  cases h : program s <;> simp only [bind, EStateM.bind, h]

lemma run_get (s : σ) : (get : EStateM ε σ σ) s = .ok s s := rfl

lemma run_modify (f : σ → σ) (s : σ) : (modify f : EStateM ε σ Unit) s = .ok () (f s) := rfl

lemma run_map (f : α → β) (program : EStateM ε σ α) (s : σ) :
    (f <$> program) s = match program s with
      | .ok a s' => .ok (f a) s'
      | .error e s' => .error e s' := by
  cases h : program s <;> simp only [Functor.map, EStateM.map, h]

lemma run_adaptExcept (f : ε → ε') (program : EStateM ε σ α) (s : σ) :
    (program.adaptExcept f) s = match program s with
      | .ok a s' => .ok a s'
      | .error e s' => .error (f e) s' := by
  unfold EStateM.adaptExcept
  cases program s <;> rfl

lemma leaves_adaptExcept (f : ε → ε') (program : EStateM ε σ α) (s : σ) :
    leaves ((program.adaptExcept f) s) = leaves (program s) := by
  rw [run_adaptExcept]
  cases program s <;> rfl

lemma leaves_map (f : α → β) (program : EStateM ε σ α) (s : σ) :
    leaves ((f <$> program) s) = leaves (program s) := by
  rw [run_map]
  cases program s <;> rfl

/-! ### How programs end -/

section
variable {program : EStateM ε σ α} {s s' : σ}

lemma bind_eq_error_iff {next : α → EStateM ε σ β} {e : ε} :
    (program >>= next) s = .error e s' ↔
      program s = .error e s' ∨
        ∃ a between, program s = .ok a between ∧ next a between = .error e s' := by
  rw [run_bind]
  cases program s <;> simp

lemma bind_eq_ok_iff {next : α → EStateM ε σ β} {b : β} :
    (program >>= next) s = .ok b s' ↔
      ∃ a between, program s = .ok a between ∧ next a between = .ok b s' := by
  rw [run_bind]
  cases program s <;> simp

lemma map_eq_error_iff {f : α → β} {e : ε} :
    (f <$> program) s = .error e s' ↔ program s = .error e s' := by
  rw [run_map]
  cases program s <;> simp

lemma adaptExcept_eq_error_iff {f : ε → ε'} {e' : ε'} :
    (program.adaptExcept f) s = .error e' s' ↔ ∃ e, program s = .error e s' ∧ f e = e' := by
  rw [run_adaptExcept]
  cases program s <;> simp [and_comm]

lemma adaptExcept_eq_ok_iff {f : ε → ε'} {a : α} :
    (program.adaptExcept f) s = .ok a s' ↔ program s = .ok a s' := by
  rw [run_adaptExcept]
  cases program s <;> simp

end

/-! ## Registers and memory -/

namespace Processor

lemma getV_setV_self (processor : Processor) (x : Register) (byte : UInt8) :
    (processor.setV x byte).getV x = byte :=
  Vector.getElem_set_self x.isLt

lemma getV_setV_of_ne {processor : Processor} {x z : Register} {byte : UInt8} (other : z ≠ x) :
    (processor.setV x byte).getV z = processor.getV z :=
  Vector.getElem_set_ne x.isLt z.isLt fun same => other (Fin.ext same.symm)

end Processor

namespace Memory

variable {memory : Memory} {start count : Nat}

/-- A block that begins at a natural number lies inside memory if it ends there. -/
lemma within_natCast : Within start count ↔ start + count ≤ 4096 := by
  unfold Within
  omega

lemma length_slice (memory : Memory) (start stop : Nat) :
    (memory.slice start stop).length = min stop 4096 - start := by
  rw [slice, Array.length_toList, Array.size_extract, Vector.size_toArray]

/-- From a block inside memory comes a slice of it. -/
lemma readBytes_natCast (inside : start + count ≤ 4096) :
    memory.readBytes start count = .ok (memory.slice start (start + count)) := by
  have stop : blockEnd start count = start + count := by
    unfold blockEnd
    rw [if_neg (by omega)]
    omega
  rw [readBytes, if_pos (within_natCast.2 inside), Int.toNat_natCast, stop]

/-- A block that can be read has the size that is asked for. -/
lemma length_of_readBytes {bytes : List UInt8} (read : memory.readBytes start count = .ok bytes) :
    bytes.length = count := by
  by_cases inside : start + count ≤ 4096
  · rw [readBytes_natCast inside] at read
    cases read
    rw [length_slice]
    omega
  · rw [readBytes, if_neg (mt within_natCast.1 inside)] at read
    cases read

end Memory

/-! ## Actions -/

namespace Machine

lemma run_getV (x : Register) (machine : Machine) :
    Action.getV x machine = .ok (machine.processor.getV x) machine := rfl

lemma run_pop (machine : Machine) :
    Action.pop machine = match machine.processor.stack.pop? with
      | some (address, stack) => .ok address (machine.mapProcessor ({ · with stack }))
      | none => .error .stackUnderflow machine := by
  simp only [Action.pop, run_bind, run_get]
  cases machine.processor.stack.pop? <;> rfl

lemma run_push (address : Nat) (machine : Machine) :
    Action.push address machine = match machine.processor.stack.push? address with
      | some stack => .ok () (machine.mapProcessor ({ · with stack }))
      | none => .error .stackOverflow machine := by
  simp only [Action.push, run_bind, run_get]
  cases machine.processor.stack.push? address <;> rfl

lemma run_isDown (x : Register) (machine : Machine) :
    Action.isDown x machine =
      if code : (machine.processor.getV x).toNat < 16 then
        .ok (machine.keypad.isDown ⟨_, code⟩) machine
      else .error (.invalidKey (machine.processor.getV x).toNat) machine := by
  rw [Action.isDown, run_bind, run_getV]
  -- The register has been read. What is left looks at the keypad, or throws.
  show (if code : _ then _ else _ : Action Bool) machine = _
  split <;> rfl

lemma run_readBlock (count : Nat) (machine : Machine) :
    Action.readBlock count machine =
      match machine.memory.readBytes machine.processor.index.toNat count with
      | .ok bytes => .ok bytes machine
      | .error cause => .error cause machine := by
  simp only [Action.readBlock, run_bind, run_get]
  cases machine.memory.readBytes machine.processor.index.toNat count <;> rfl

lemma run_writeBlock (bytes : List UInt8) (machine : Machine) :
    Action.writeBlock bytes machine =
      match machine.memory.writeBytes machine.processor.index.toNat bytes with
      | .ok memory => .ok () { machine with memory }
      | .error cause => .error cause machine := rfl

lemma run_pollKey (machine : Machine) :
    Action.pollKey machine =
      match machine.keypad.lowestDown? with
      | some key => .ok () (machine.mapProcessor fun processor =>
          ({ processor.setV processor.keyRegister (UInt8.ofNat key) with
            awaitsKey := false } : Processor).advance)
      | none => .ok () machine := by
  simp only [Action.pollKey, run_bind, run_get]
  cases machine.keypad.lowestDown? <;> rfl

/-! ## Steps -/

lemma step_of_isWaiting {machine : Machine} (waiting : machine.isWaiting = true) :
    step machine = Action.pollKey.adaptExcept ({ cause := · }) machine := by
  unfold step
  rw [if_pos waiting]

lemma step_of_fetch_error {machine : Machine} {fault : Fault} (runs : machine.isWaiting = false)
    (fetched : machine.fetch = .error fault) : step machine = .error fault machine := by
  unfold step
  rw [if_neg (Bool.eq_false_iff.1 runs), fetched]

lemma step_of_fetch_ok {machine : Machine} {word : UInt16} (runs : machine.isWaiting = false)
    (fetched : machine.fetch = .ok word) :
    step machine =
      (perform (.decode word)).adaptExcept (·.located machine.processor.pc word) machine := by
  unfold step
  rw [if_neg (Bool.eq_false_iff.1 runs), fetched]

lemma upcoming?_of_isWaiting {machine : Machine} (waiting : machine.isWaiting = true) :
    machine.upcoming? = none := if_pos waiting

lemma upcoming?_of_fetch_error {machine : Machine} {fault : Fault}
    (runs : machine.isWaiting = false) (fetched : machine.fetch = .error fault) :
    machine.upcoming? = none := by
  unfold upcoming?
  rw [if_neg (Bool.eq_false_iff.1 runs), fetched]
  rfl

lemma upcoming?_of_fetch_ok {machine : Machine} {word : UInt16}
    (runs : machine.isWaiting = false) (fetched : machine.fetch = .ok word) :
    machine.upcoming? = some word := by
  unfold upcoming?
  rw [if_neg (Bool.eq_false_iff.1 runs), fetched]
  rfl

end Machine

end Chip8
