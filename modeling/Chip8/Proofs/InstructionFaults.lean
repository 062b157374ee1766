import Chip8.Proofs.ActionRuns

/-!
# When instructions fault

An instruction that can fault begins with one check, and everything behind the check goes through.
So it either faults in the state it began in, or completes. `Instruction.fault?` says which,
from the registers alone: `checks_perform` proves it of what instructions do, `step_cases` of one
step of the machine.

`Checks` is the shape that the proofs follow: it holds of the actions that check, and
`Checks.bind` carries it over whatever follows and cannot fault.
-/

namespace Chip8

/-! ## The fault of an instruction -/

namespace Machine

/-- The fault of an access to a block from the index register on, if the block leaves memory. -/
def blockFault? (machine : Machine) (count : Nat) : Option Fault.Cause :=
  if machine.processor.index.toNat + count ≤ 4096 then none
  else some (Memory.refusal machine.processor.index.toNat)

/-- The fault of a register as a key code, if it is none. -/
def keyFault? (machine : Machine) (x : Register) : Option Fault.Cause :=
  if (machine.processor.getV x).toNat < 16 then none
  else some (.invalidKey (machine.processor.getV x).toNat)

/-- The fault of a call, if all slots of the stack are in use. -/
def pushFault? (machine : Machine) : Option Fault.Cause :=
  if machine.processor.stack.depth < 16 then none else some .stackOverflow

/-- The fault of a return, if no slot of the stack is in use. -/
def popFault? (machine : Machine) : Option Fault.Cause :=
  if 0 < machine.processor.stack.depth then none else some .stackUnderflow

end Machine

/-- The fault that an instruction causes, if any. -/
def Instruction.fault? (machine : Machine) : Instruction → Option Fault.Cause
  | ret => machine.popFault?
  | call _ => machine.pushFault?
  | skipIfDown x => machine.keyFault? x
  | skipIfUp x => machine.keyFault? x
  | draw _ _ height => machine.blockFault? height
  | storeDecimal _ => machine.blockFault? 3
  | storeRegisters x => machine.blockFault? (x + 1)
  | loadRegisters x => machine.blockFault? (x + 1)
  | undefined _ => some .undefinedInstruction
  | _ => none

namespace Machine

/-! ## Actions that check first -/

variable {α β : Type}

/-- What came out of a machine is this fault in the state it began in, or a result if there is
none. -/
def Checks (outcome : EStateM.Result Fault.Cause Machine α) (machine : Machine) :
    Option Fault.Cause → Prop
  | some cause => outcome = .error cause machine
  | none => ∃ result after, outcome = .ok result after

/-- An action completes in every state. -/
def Total (action : Action α) : Prop :=
  ∀ machine, ∃ result after, action machine = .ok result after

/-- What follows a check and cannot fault adds no fault. -/
lemma Checks.bind {action : Action α} {next : α → Action β} {machine : Machine}
    {cause? : Option Fault.Cause} (first : Checks (action machine) machine cause?)
    (rest : ∀ result, Total (next result)) :
    Checks ((action >>= next) machine) machine cause? := by
  rw [run_bind]
  cases cause? with
  | none =>
    obtain ⟨result, after, h⟩ := first
    rw [h]
    -- The rest completes from wherever the first action led.
    exact rest result after
  | some cause =>
    rw [show action machine = .error cause machine from first]
    rfl

lemma checks_pop (machine : Machine) : Checks (Action.pop machine) machine machine.popFault? := by
  rw [run_pop]
  unfold popFault? CallStack.pop?
  by_cases used : 0 < machine.processor.stack.depth
  · rw [if_pos used, dif_pos used]
    exact ⟨_, _, rfl⟩
  · rw [if_neg used, dif_neg used]
    rfl

lemma checks_push (address : Nat) (machine : Machine) :
    Checks (Action.push address machine) machine machine.pushFault? := by
  rw [run_push]
  unfold pushFault? CallStack.push?
  by_cases free : machine.processor.stack.depth < 16
  · rw [if_pos free, dif_pos free]
    exact ⟨_, _, rfl⟩
  · rw [if_neg free, dif_neg free]
    rfl

lemma checks_isDown (x : Register) (machine : Machine) :
    Checks (Action.isDown x machine) machine (machine.keyFault? x) := by
  rw [run_isDown]
  unfold keyFault?
  split
  · exact ⟨_, _, rfl⟩
  · rfl

/-- A block from the index register on lies inside memory if it ends there. -/
lemma within_index_iff (machine : Machine) (count : Nat) :
    Memory.Within machine.processor.index.toNat count ↔
      machine.processor.index.toNat + count ≤ 4096 :=
  Memory.within_natCast

lemma checks_readBlock (count : Nat) (machine : Machine) :
    Checks (Action.readBlock count machine) machine (machine.blockFault? count) := by
  rw [run_readBlock]
  unfold blockFault? Memory.readBytes
  simp only [within_index_iff]
  by_cases inside : machine.processor.index.toNat + count ≤ 4096
  · rw [if_pos inside, if_pos inside]
    exact ⟨_, _, rfl⟩
  · rw [if_neg inside, if_neg inside]
    rfl

lemma checks_writeBlock (bytes : List UInt8) (machine : Machine) :
    Checks (Action.writeBlock bytes machine) machine (machine.blockFault? bytes.length) := by
  rw [run_writeBlock]
  unfold blockFault? Memory.writeBytes
  simp only [within_index_iff]
  by_cases inside : machine.processor.index.toNat + bytes.length ≤ 4096
  · rw [if_pos inside, if_pos inside]
    exact ⟨_, _, rfl⟩
  · rw [if_neg inside, if_neg inside]
    rfl

lemma total_pollKey : Total Action.pollKey := by
  intro machine
  rw [run_pollKey]
  cases machine.keypad.lowestDown? <;> exact ⟨_, _, rfl⟩

/-! ## Instructions -/

/-- Every instruction makes its check before it changes anything. -/
theorem checks_perform (instruction : Instruction) (machine : Machine) :
    Checks (perform instruction machine) machine (instruction.fault? machine) := by
  -- Behind the check come actions that compute and nothing else, so they are total by `rfl`.
  cases instruction
  case ret => exact (checks_pop machine).bind fun _ _ => ⟨_, _, rfl⟩
  case call target => exact (checks_push _ machine).bind fun _ _ => ⟨_, _, rfl⟩
  case skipIfDown x => exact (checks_isDown x machine).bind fun _ _ => ⟨_, _, rfl⟩
  case skipIfUp x => exact (checks_isDown x machine).bind fun _ _ => ⟨_, _, rfl⟩
  case draw x y height => exact (checks_readBlock height machine).bind fun _ _ => ⟨_, _, rfl⟩
  case storeDecimal x =>
    let a := machine.processor.getV x
    have checked := checks_writeBlock [a / 100, a / 10 % 10, a % 10] machine
    rw [perform, run_bind, run_getV]
    exact checked.bind fun _ _ => ⟨_, _, rfl⟩
  case storeRegisters x =>
    -- The block is checked for the number of its bytes, which is that of the registers.
    let bytes := machine.processor.v.toList.take (x + 1)
    have length : bytes.length = x + 1 := by
      simp only [bytes, List.length_take, Vector.length_toList]
      omega
    have checked := checks_writeBlock bytes machine
    rw [length] at checked
    rw [perform, run_bind, run_get]
    exact checked.bind fun _ _ => ⟨_, _, rfl⟩
  case loadRegisters x => exact (checks_readBlock _ machine).bind fun _ _ => ⟨_, _, rfl⟩
  case awaitKey x => exact total_pollKey _
  case undefined word => rfl
  -- The others look at nothing that could be wrong.
  all_goals exact ⟨_, _, rfl⟩

lemma perform_error {instruction : Instruction} {machine after : Machine} {cause : Fault.Cause}
    (failed : perform instruction machine = .error cause after) : after = machine := by
  have checked := checks_perform instruction machine
  cases h : instruction.fault? machine with
  | none =>
    rw [h] at checked
    obtain ⟨_, _, performed⟩ := checked
    rw [performed] at failed
    cases failed
  | some cause' =>
    rw [h] at checked
    rw [show perform instruction machine = .error cause' machine from checked] at failed
    cases failed
    rfl

/-! ## Steps -/

/-- The fault that the next step of a machine ends with, if any. -/
def fault? (machine : Machine) : Option Fault :=
  if machine.isWaiting then none
  else
    match machine.fetch with
    | .error fault => some fault
    | .ok word =>
      ((Instruction.decode word).fault? machine).map (·.located machine.processor.pc word)

/-- A step ends with the fault of its machine and changes nothing, or completes. -/
theorem step_cases (machine : Machine) :
    (∃ fault, machine.fault? = some fault ∧ step machine = .error fault machine) ∨
      machine.fault? = none ∧ ∃ after, step machine = .ok () after := by
  unfold fault?
  cases waits : machine.isWaiting with
  | true =>
    -- Polling the keypad never fails, whether a key is down or not.
    obtain ⟨_, after, polled⟩ := total_pollKey machine
    refine .inr ⟨rfl, after, ?_⟩
    rw [step_of_isWaiting waits, run_adaptExcept, polled]
  | false =>
    cases fetched : machine.fetch with
    | error fault => exact .inl ⟨fault, rfl, step_of_fetch_error waits fetched⟩
    | ok word =>
      -- From here on a step is the instruction, and only the place is added to its fault.
      have stepped := step_of_fetch_ok waits fetched
      have checked := checks_perform (Instruction.decode word) machine
      rw [run_adaptExcept] at stepped
      cases h : (Instruction.decode word).fault? machine with
      | none =>
        rw [h] at checked
        obtain ⟨_, after, performed⟩ := checked
        rw [performed] at stepped
        exact .inr ⟨by simp [h], after, stepped⟩
      | some cause =>
        rw [h] at checked
        rw [show perform (Instruction.decode word) machine = .error cause machine from checked]
          at stepped
        exact .inl ⟨cause.located machine.processor.pc word, by simp [h], stepped⟩

theorem step_eq_error_iff {machine after : Machine} {fault : Fault} :
    step machine = .error fault after ↔ machine.fault? = some fault ∧ after = machine := by
  rcases step_cases machine with ⟨fault', known, stepped⟩ | ⟨known, after', stepped⟩
  · rw [stepped, known]
    constructor
    · rintro ⟨⟩
      exact ⟨rfl, rfl⟩
    · rintro ⟨⟨⟩, rfl⟩
      rfl
  · rw [stepped, known]
    simp

end Machine

end Chip8
