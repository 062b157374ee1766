import Chip8.Proofs.Frames
import Chip8.Proofs.Independence
import Chip8.Proofs.Raw.Operations
import Chip8.Proofs.WordForms

/-!
# Waiting for a key is evaluating again

While an instruction waits for a key, the machine is suspended: it remembers the register and polls
the keypad, without fetching. A machine without such a memory would do nothing when no key is down
and fetch and evaluate the same instruction again in the next cycle. To a host that only runs cycles
and sets keys both are the same machine.

The invariant is that a suspended machine still stands at the instruction it waits for
(`KeepsPlace`). So a poll is the evaluation of that instruction (`step_eq_evaluate`), and evaluation
reads nothing of what is remembered of a wait (`mirrors_evaluate`).
-/

namespace Chip8.Machine

open Raw (Mirrors)

variable {machine : Machine}

/-! ## The machine that fetches again -/

/-- Fetches the instruction at the program counter and performs it in a given way. -/
def evaluate (perform : Instruction → Action Unit) : EStateM Fault Machine Unit := fun machine =>
  match machine.fetch with
  | .error fault => .error fault machine
  | .ok word =>
    (perform (Instruction.decode word)).adaptExcept
      (·.located machine.processor.pc word) machine

/-- Takes the least key that is down into a register and continues; does nothing if none is. -/
def Action.takeKey (x : Register) : Action Unit := do
  match (← get).keypad.lowestDown? with
  | some key =>
    setV x (UInt8.ofNat key)
    advance
  | none => return

/-- What instructions do if none of them suspends the machine. -/
def performRefetching : Instruction → Action Unit
  | .awaitKey x => Action.takeKey x
  | instruction => perform instruction

/-- A cycle of the machine that fetches its instruction every time. -/
def cycleRefetching : EStateM Fault Machine Unit := do
  evaluate performRefetching
  modify tick

/-! ## What is remembered of a wait -/

/-- The machine that remembers something else of a wait. -/
def withWait (machine : Machine) (awaits : Bool) (register : Register) : Machine :=
  machine.mapProcessor ({ · with awaitsKey := awaits, keyRegister := register })

/-- The machine without anything remembered of a wait. -/
def withoutWait (machine : Machine) : Machine := machine.withWait false .first

lemma withWait_self (machine : Machine) :
    machine.withWait machine.isWaiting machine.processor.keyRegister = machine := rfl

lemma run_awaitKey (x : Register) (machine : Machine) :
    perform (.awaitKey x) machine = Action.pollKey (machine.withWait true x) := rfl

/-! ## Instructions do not read it -/

section
variable (awaits : Bool) (register : Register)

lemma unseen_withWait : Unseen (·.withWait awaits register) :=
  ⟨fun _ _ => rfl, fun _ => rfl, fun _ => rfl, fun _ => rfl, fun _ => rfl, fun _ _ => rfl,
    fun _ _ => rfl⟩

/-- Only the instruction that waits has to do with what is remembered of a wait. -/
lemma ignoresWait_perform {instruction : Instruction} (other : ∀ x, instruction ≠ .awaitKey x) :
    Ignores (·.withWait awaits register) (perform instruction) := by
  have unseen := unseen_withWait awaits register
  cases instruction
  case ret => exact unseen.pop.bind fun _ _ => rfl
  case call target =>
    intro machine
    exact ((unseen.push _).bind fun _ _ => rfl) machine
  case skipIfDown x => exact (unseen.isDown x).bind fun _ _ => rfl
  case skipIfUp x => exact (unseen.isDown x).bind fun _ _ => rfl
  case draw x y height => exact (unseen.readBlock _).bind fun _ _ => rfl
  case storeDecimal x =>
    intro machine
    exact ((unseen.writeBlock _).bind fun _ _ => rfl) machine
  case storeRegisters x =>
    intro machine
    exact ((unseen.writeBlock _).bind fun _ _ => rfl) machine
  case loadRegisters x => exact (unseen.readBlock _).bind fun _ _ => rfl
  case awaitKey x => exact absurd rfl (other x)
  all_goals exact fun _ => rfl

end

lemma performRefetching_of_ne {instruction : Instruction}
    (other : ∀ x, instruction ≠ .awaitKey x) :
    performRefetching instruction = perform instruction := by
  cases instruction
  case awaitKey x => exact absurd rfl (other x)
  all_goals rfl

/-- The machine that fetches again needs no memory of a wait to do what the other one does. -/
lemma mirrors_performRefetching (instruction : Instruction) :
    Mirrors withoutWait (fun cause _ => cause) id (performRefetching instruction)
      (perform instruction) := by
  by_cases awaits : ∃ x, instruction = .awaitKey x
  · obtain ⟨x, rfl⟩ := awaits
    intro machine
    have same : machine.withoutWait.keypad = (machine.withWait true x).keypad := rfl
    rw [run_awaitKey, run_pollKey, performRefetching, Action.takeKey, run_bind, run_get]
    dsimp only
    rw [same]
    cases (machine.withWait true x).keypad.lowestDown? <;> rfl
  · have other : ∀ x, instruction ≠ .awaitKey x := fun x same => awaits ⟨x, same⟩
    rw [performRefetching_of_ne other]
    exact ignoresWait_perform false .first other

lemma mirrors_evaluate :
    Mirrors withoutWait (fun fault _ => fault) id (evaluate performRefetching)
      (evaluate perform) := by
  intro machine
  have same : machine.withoutWait.fetch = machine.fetch := rfl
  unfold evaluate
  rw [same]
  cases machine.fetch with
  | error fault => rfl
  | ok word =>
    dsimp only
    rw [run_adaptExcept, run_adaptExcept, mirrors_performRefetching]
    cases perform (Instruction.decode word) machine <;> rfl

/-! ## A suspended machine keeps its place -/

/-- If an instruction waits for a key, it is still the one at the program counter. -/
def KeepsPlace (machine : Machine) : Prop :=
  machine.isWaiting = true →
    ∃ word, machine.fetch = .ok word ∧ Word.IsKeyWait word machine.processor.keyRegister

/-- The instruction at the program counter waits for a key, and none is down. -/
def Stalls (machine : Machine) : Prop :=
  ∃ word register, machine.fetch = .ok word ∧ Word.IsKeyWait word register ∧
    machine.keypad.lowestDown? = none

lemma KeepsPlace.of_runs (runs : machine.isWaiting = false) : machine.KeepsPlace := by
  intro waits
  rw [runs] at waits
  cases waits

/-- Polling the keypad is evaluating the instruction that waits. -/
lemma step_eq_evaluate (keeps : machine.KeepsPlace) : machine.step = evaluate perform machine := by
  cases waits : machine.isWaiting with
  | false =>
    unfold step evaluate
    rw [waits]
    rfl
  | true =>
    obtain ⟨word, fetched, awaits⟩ := keeps waits
    have same : machine.withWait true machine.processor.keyRegister = machine := by
      rw [← waits]
      exact machine.withWait_self
    rw [step_of_isWaiting waits, run_adaptExcept]
    unfold evaluate
    rw [fetched]
    dsimp only
    rw [Word.decode_eq_awaitKey_iff.2 awaits, run_adaptExcept, run_awaitKey, same, run_pollKey]
    cases machine.keypad.lowestDown? <;> rfl

/-- A step suspends the machine exactly where it stalls, and then the machine keeps its place. -/
lemma step_suspends_iff (keeps : machine.KeepsPlace) :
    (leaves machine.step).KeepsPlace ∧
      ((leaves machine.step).isWaiting = true ↔ machine.Stalls) := by
  rw [step_eq_evaluate keeps]
  by_cases awaits : ∃ word register, machine.fetch = .ok word ∧ Word.IsKeyWait word register
  · obtain ⟨word, register, fetched, awaits⟩ := awaits
    have same : (machine.withWait true register).keypad = machine.keypad := rfl
    unfold evaluate
    rw [fetched]
    dsimp only
    rw [Word.decode_eq_awaitKey_iff.2 awaits, leaves_adaptExcept, run_awaitKey, run_pollKey, same]
    cases lowest : machine.keypad.lowestDown? with
    | none =>
      constructor
      · intro _
        exact ⟨word, fetched, awaits⟩
      · exact ⟨fun _ => ⟨word, register, fetched, awaits, lowest⟩, fun _ => rfl⟩
    | some key =>
      constructor
      · exact KeepsPlace.of_runs rfl
      · constructor
        · rintro ⟨⟩
        · rintro ⟨-, -, -, -, released⟩
          rw [lowest] at released
          cases released
  · -- Anything else leaves the machine running, which it was before.
    have moves : ¬machine.Stalls := by
      rintro ⟨word, register, fetched, awaits', -⟩
      exact awaits ⟨word, register, fetched, awaits'⟩
    have runs : machine.isWaiting = false := by
      by_contra waits
      obtain ⟨word, fetched, awaits'⟩ := keeps (Bool.eq_true_of_not_eq_false waits)
      exact awaits ⟨word, _, fetched, awaits'⟩
    have still : (leaves (evaluate perform machine)).isWaiting = false := by
      unfold evaluate
      cases fetched : machine.fetch with
      | error fault => exact runs
      | ok word =>
        have other : ∀ x, Instruction.decode word ≠ .awaitKey x := fun x decoded =>
          awaits ⟨word, x, fetched, Word.decode_eq_awaitKey_iff.1 decoded⟩
        dsimp only
        rw [leaves_adaptExcept, (footprint_perform _ machine).wait other, runs]
    exact ⟨KeepsPlace.of_runs still, by simp [still, moves]⟩

/-! ## Cycles -/

/-- A cycle suspends the machine exactly where it stalls, and then the machine keeps its place. -/
lemma cycle_suspends_iff (keeps : machine.KeepsPlace) :
    (leaves machine.cycle).KeepsPlace ∧
      ((leaves machine.cycle).isWaiting = true ↔ machine.Stalls) := by
  have stepped := step_suspends_iff keeps
  rw [run_cycle]
  cases h : machine.step <;> rwa [h] at stepped

/-- The machine that fetches again does in a cycle what the other one does. -/
lemma run_cycleRefetching (keeps : machine.KeepsPlace) :
    machine.withoutWait.cycleRefetching = match machine.cycle with
      | .ok () after => .ok () after.withoutWait
      | .error fault after => .error fault after.withoutWait := by
  unfold cycleRefetching
  rw [run_bind, mirrors_evaluate, run_cycle, step_eq_evaluate keeps]
  cases evaluate perform machine <;> rfl

lemma leaves_cycleRefetching (keeps : machine.KeepsPlace) :
    leaves machine.withoutWait.cycleRefetching = (leaves machine.cycle).withoutWait := by
  rw [run_cycleRefetching keeps]
  cases machine.cycle <;> rfl

lemma cycleRefetching_fails_iff (keeps : machine.KeepsPlace) {fault : Fault} :
    (∃ after, machine.withoutWait.cycleRefetching = .error fault after) ↔
      ∃ after, machine.cycle = .error fault after := by
  rw [run_cycleRefetching keeps]
  cases machine.cycle <;> simp

/-! ## Hosts that run cycles and set keys -/

/-- Whether an operation only sets keys. -/
def Operation.setsKeys : Operation → Bool
  | .setKeys _ | .setKey _ _ | .releaseAll => true
  | _ => false

/-- The machine that an operation leaves if the machine fetches in every cycle. -/
def refetch (machine : Machine) : Operation → Machine
  | .cycle => leaves machine.cycleRefetching
  | operation => machine.operate operation

/-- The machine that operations leave one after the other if it fetches in every cycle. -/
def refetchAll (machine : Machine) (operations : List Operation) : Machine :=
  operations.foldl refetch machine

section
variable {operation : Operation} {operations : List Operation}

lemma withoutWait_latch {ε : Type} (machine : Machine) (keys : Except ε Keypad) :
    machine.withoutWait.latch keys = (machine.latch keys).withoutWait := by
  cases keys <;> rfl

lemma operate_of_setsKeys (sets : operation.setsKeys = true) (machine : Machine) :
    ∃ keypad, machine.operate operation = { machine with keypad } := by
  cases operation <;> cases sets
  case setKeys states => exact machine.latch_eq (Keypad.ofList states)
  case setKey reference isDown => exact machine.latch_eq _
  case releaseAll => exact ⟨.released, rfl⟩

lemma refetch_of_setsKeys (sets : operation.setsKeys = true) (machine : Machine) :
    machine.withoutWait.refetch operation = (machine.operate operation).withoutWait := by
  cases operation <;> cases sets
  case setKeys states => exact machine.withoutWait_latch (Keypad.ofList states)
  case setKey reference isDown => exact machine.withoutWait_latch _
  case releaseAll => rfl

/-- What one operation preserves. -/
lemma keepsPlace_operate (keeps : machine.KeepsPlace)
    (hosted : operation = .cycle ∨ operation.setsKeys = true) :
    (machine.operate operation).KeepsPlace ∧
      machine.withoutWait.refetch operation = (machine.operate operation).withoutWait := by
  rcases hosted with rfl | sets
  · exact ⟨(cycle_suspends_iff keeps).1, leaves_cycleRefetching keeps⟩
  · obtain ⟨keypad, same⟩ := operate_of_setsKeys sets machine
    refine ⟨?_, refetch_of_setsKeys sets machine⟩
    rw [same]
    exact keeps

/-- What any operations preserve. -/
lemma keepsPlace_operateAll (keeps : machine.KeepsPlace)
    (hosted : ∀ operation ∈ operations, operation = .cycle ∨ operation.setsKeys = true) :
    (machine.operateAll operations).KeepsPlace ∧
      machine.withoutWait.refetchAll operations = (machine.operateAll operations).withoutWait := by
  -- On the operations, for the machine that the first of them leaves, which keeps its place too.
  induction operations generalizing machine with
  | nil => exact ⟨keeps, rfl⟩
  | cons operation operations ih =>
    obtain ⟨first, rest⟩ := List.forall_mem_cons.1 hosted
    obtain ⟨keeps', same⟩ := keepsPlace_operate keeps first
    have continued := ih keeps' rest
    rw [← same] at continued
    exact continued

/-- Setting keys neither begins nor ends a wait. -/
lemma isWaiting_operateAll (sets : ∀ operation ∈ operations, operation.setsKeys = true) :
    (machine.operateAll operations).isWaiting = machine.isWaiting := by
  induction operations generalizing machine with
  | nil => rfl
  | cons operation operations ih =>
    obtain ⟨first, rest⟩ := List.forall_mem_cons.1 sets
    obtain ⟨keypad, same⟩ := operate_of_setsKeys first machine
    calc ((machine.operate operation).operateAll operations).isWaiting
        = (machine.operate operation).isWaiting := ih rest
      _ = machine.isWaiting := by rw [same]; rfl

/-- To a host that runs cycles and sets keys, a machine that is suspended while it waits for a key
is the machine that fetches and evaluates the waiting instruction in every cycle: the same but for
what is remembered of the wait, with the same faults in the same cycles. It is suspended exactly if
its last cycle evaluated such an instruction while no key was down, and that instruction is still
the one at the program counter. -/
theorem suspended_wait_refines_refetching (machine : Machine) (operations : List Operation)
    (runs : machine.isWaiting = false)
    (hosted : ∀ operation ∈ operations, operation = .cycle ∨ operation.setsKeys = true) :
    let suspended := machine.operateAll operations
    let refetching := machine.withoutWait.refetchAll operations
    suspended.withoutWait = refetching ∧
      (∀ fault, (∃ after, suspended.cycle = .error fault after) ↔
        ∃ after, refetching.cycleRefetching = .error fault after) ∧
      (∀ earlier later, operations = earlier ++ .cycle :: later →
        (∀ operation ∈ later, operation.setsKeys = true) →
        (suspended.isWaiting = true ↔ (machine.withoutWait.refetchAll earlier).Stalls)) ∧
      ((∀ operation ∈ operations, operation.setsKeys = true) → suspended.isWaiting = false) ∧
      (suspended.isWaiting = true → ∃ word, suspended.fetch = .ok word ∧
        Word.IsKeyWait word suspended.processor.keyRegister) := by
  intro suspended refetching
  have keeps := KeepsPlace.of_runs runs
  obtain ⟨keepsNow, same⟩ := keepsPlace_operateAll keeps hosted
  have sameNow : refetching = suspended.withoutWait := same
  refine ⟨sameNow.symm, fun fault => ?_, ?_, fun sets => ?_, keepsNow⟩
  · rw [sameNow]
    exact (cycleRefetching_fails_iff keepsNow).symm
  · rintro earlier later rfl sets
    have before : ∀ operation ∈ earlier, operation = .cycle ∨ operation.setsKeys = true :=
      fun operation member => hosted operation (List.mem_append_left _ member)
    obtain ⟨keepsThen, sameThen⟩ := keepsPlace_operateAll keeps before
    have split : suspended = (leaves (machine.operateAll earlier).cycle).operateAll later :=
      List.foldl_append
    rw [split, isWaiting_operateAll sets, sameThen]
    exact (cycle_suspends_iff keepsThen).2
  · exact (isWaiting_operateAll sets).trans runs

end

/-- A machine about to wait for a key, which goes into `V3`, and then to jump in place. -/
def aboutToWait : Machine :=
  .powerOn { bytes := [0xF3, 0x0A, 0x12, 0x02], fits := by decide } (.ofStream fun _ => 0) false

/-- What a host does that runs two cycles before it puts a key down and runs two more. -/
def lateKey : List Operation := [.cycle, .cycle, .setKey (.place "a") true, .cycle, .cycle]

-- The machine after a few operations is a deep term.
set_option maxRecDepth 2000 in
theorem suspended_wait_refines_refetching_until_late_key :
    (aboutToWait.operateAll (lateKey.take 2)).isWaiting = true ∧
      (aboutToWait.withoutWait.refetchAll (lateKey.take 1)).Stalls ∧
      (aboutToWait.operateAll lateKey).isWaiting = false ∧
      (aboutToWait.withoutWait.refetchAll lateKey).processor.getV 3 = 7 ∧
      (aboutToWait.withoutWait.refetchAll lateKey).processor.pc.toNat = 0x202 := by
  have waits : (aboutToWait.operateAll (lateKey.take 2)).isWaiting = true := by decide +kernel
  have runs : aboutToWait.isWaiting = false := rfl
  obtain ⟨-, -, suspended, -⟩ := suspended_wait_refines_refetching aboutToWait (lateKey.take 2)
    runs (by simp [lateKey, Operation.setsKeys])
  obtain ⟨same, -⟩ := suspended_wait_refines_refetching aboutToWait lateKey
    runs (by simp [lateKey, Operation.setsKeys])
  have stalls := (suspended [.cycle] [] rfl (by simp)).1 waits
  refine ⟨waits, stalls, by decide +kernel, ?_⟩
  rw [← same]
  exact ⟨by decide +kernel, by decide +kernel⟩

end Chip8.Machine
