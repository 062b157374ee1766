import Chip8.Proofs.InstructionFaults

/-!
# Executed instructions

A cycle does one of three things: it executes the instruction at the program counter, it polls the
keypad for an instruction that waits, or it faults and leaves the machine as it was (`cycle_cases`).
`Executes` says of a cycle that it was of the first kind, and which instruction it was.
-/

namespace Chip8.Machine

variable {machine after : Machine} {instruction : Instruction} {word : UInt16}

/-! ## Fetching -/

/-- A word can be read exactly where both of its bytes lie inside memory. -/
lemma fetch_ok_iff : (∃ word, machine.fetch = .ok word) ↔ machine.processor.pc.toNat ≤ 4094 := by
  have within_iff : Memory.Within machine.processor.pc.toNat 2 ↔
      machine.processor.pc.toNat ≤ 4094 := by
    unfold Memory.Within
    omega
  unfold fetch Memory.readWord
  rw [← within_iff]
  by_cases inside : Memory.Within machine.processor.pc.toNat 2
  · rw [dif_pos inside]
    exact ⟨fun _ => inside, fun _ => ⟨_, rfl⟩⟩
  · rw [dif_neg inside]
    constructor
    · rintro ⟨_, ⟨⟩⟩
    · intro inside'
      exact absurd inside' inside

lemma upcoming?_eq_some_iff :
    machine.upcoming? = some word ↔ machine.isWaiting = false ∧ machine.fetch = .ok word := by
  cases waits : machine.isWaiting with
  | true => simp [upcoming?_of_isWaiting waits]
  | false =>
    cases fetched : machine.fetch with
    | error fault => simp [upcoming?_of_fetch_error waits fetched]
    | ok other => simp [upcoming?_of_fetch_ok waits fetched]

/-! ## Steps -/

/-- A step that completes has performed the instruction that was about to be executed. -/
lemma performed_of_step (stepped : step machine = .ok () after)
    (upcoming : machine.upcoming? = some word) :
    perform (Instruction.decode word) machine = .ok () after := by
  obtain ⟨runs, fetched⟩ := upcoming?_eq_some_iff.1 upcoming
  rwa [step_of_fetch_ok runs fetched, adaptExcept_eq_ok_iff] at stepped

/-- A step that completes polls the keypad or performs the instruction at the program counter. -/
lemma step_completes_cases (stepped : step machine = .ok () after) :
    (machine.isWaiting = true ∧ Action.pollKey machine = .ok () after) ∨
      ∃ word, machine.upcoming? = some word ∧
        perform (Instruction.decode word) machine = .ok () after := by
  cases waits : machine.isWaiting with
  | true =>
    left
    rw [step_of_isWaiting waits, adaptExcept_eq_ok_iff] at stepped
    exact ⟨rfl, stepped⟩
  | false =>
    right
    cases fetched : machine.fetch with
    | error fault =>
      rw [step_of_fetch_error waits fetched] at stepped
      cases stepped
    | ok word =>
      have upcoming := upcoming?_of_fetch_ok waits fetched
      exact ⟨word, upcoming, performed_of_step stepped upcoming⟩

/-! ## Cycles -/

/-- A cycle is a step and a tick, unless the step faults. -/
lemma run_cycle (machine : Machine) :
    machine.cycle = match machine.step with
      | .ok () between => .ok () between.tick
      | .error fault between => .error fault between := by
  unfold cycle
  rw [run_bind]
  cases machine.step <;> rfl

/-- Whom a gate refuses stays as it is, whom it admits makes a step. -/
lemma machine_stepGated {σ : Type} (gate : Gate σ) (machine : Machine) (records : σ) :
    (leaves (stepGated gate (machine, records))).1 =
      if (machine.ask gate records).1 then leaves machine.step else machine := by
  unfold stepGated
  dsimp only
  rcases machine.ask gate records with ⟨_ | _, records'⟩
  · rfl
  · dsimp only
    cases machine.step <;> rfl

/-- Whom a gate refuses stays as it is, whom it admits makes a cycle. -/
lemma machine_cycleGated {σ : Type} (gate : Gate σ) (machine : Machine) (records : σ) :
    (leaves (cycleGated gate (machine, records))).1 =
      if (machine.ask gate records).1 then leaves machine.cycle else machine := by
  unfold cycleGated
  rw [run_bind, stepGated, run_cycle]
  dsimp only
  rcases machine.ask gate records with ⟨_ | _, records'⟩
  · rfl
  · dsimp only
    cases machine.step <;> rfl

/-- A cycle executes this instruction and leaves that machine. -/
def Executes (machine : Machine) (instruction : Instruction) (after : Machine) : Prop :=
  ∃ word, machine.upcoming? = some word ∧ Instruction.decode word = instruction ∧
    machine.cycle = .ok () after

lemma Executes.pc_le (executed : machine.Executes instruction after) :
    machine.processor.pc.toNat ≤ 4094 := by
  obtain ⟨word, upcoming, -, -⟩ := executed
  exact fetch_ok_iff.1 ⟨word, (upcoming?_eq_some_iff.1 upcoming).2⟩

lemma Executes.performed (executed : machine.Executes instruction after) :
    ∃ between, perform instruction machine = .ok () between ∧ after = between.tick := by
  obtain ⟨word, upcoming, rfl, cycled⟩ := executed
  obtain ⟨runs, fetched⟩ := upcoming?_eq_some_iff.1 upcoming
  have stepped := step_of_fetch_ok runs fetched
  rw [run_adaptExcept] at stepped
  rw [run_cycle, stepped] at cycled
  cases h : perform (Instruction.decode word) machine with
  | ok answer between =>
    rw [h] at cycled
    cases cycled
    exact ⟨between, rfl, rfl⟩
  | error cause between =>
    rw [h] at cycled
    cases cycled

/-- An instruction that is fetched is executed, unless it faults. -/
lemma executes_of_upcoming (upcoming : machine.upcoming? = some word)
    (decoded : Instruction.decode word = instruction)
    (harmless : instruction.fault? machine = none) :
    machine.Executes instruction (leaves machine.cycle) := by
  obtain ⟨runs, fetched⟩ := upcoming?_eq_some_iff.1 upcoming
  have known : machine.fault? = none := by
    unfold fault?
    rw [runs, fetched]
    simp [decoded, harmless]
  rcases machine.step_cases with ⟨fault, known', -⟩ | ⟨-, between, stepped⟩
  · rw [known] at known'
    cases known'
  · have cycled : machine.cycle = .ok () between.tick := by rw [run_cycle, stepped]
    exact ⟨word, upcoming, decoded, by rw [cycled]; rfl⟩

/-- What a cycle can do. -/
theorem cycle_cases (machine : Machine) :
    (∃ fault, machine.cycle = .error fault machine) ∨
      (machine.isWaiting = true ∧ ∃ polled, Action.pollKey machine = .ok () polled ∧
        machine.cycle = .ok () polled.tick) ∨
      ∃ instruction after, machine.Executes instruction after ∧ machine.cycle = .ok () after := by
  rcases machine.step_cases with ⟨fault, -, stepped⟩ | ⟨-, between, stepped⟩
  · left
    exact ⟨fault, by rw [run_cycle, stepped]⟩
  · have cycled : machine.cycle = .ok () between.tick := by rw [run_cycle, stepped]
    rcases step_completes_cases stepped with ⟨waits, polled⟩ | ⟨word, upcoming, -⟩
    · exact .inr (.inl ⟨waits, between, polled, cycled⟩)
    · exact .inr (.inr ⟨_, _, ⟨word, upcoming, rfl, cycled⟩, cycled⟩)

end Chip8.Machine
