import Chip8.Proofs.Chronicle
import Chip8.Proofs.DebuggerTransparency
import Chip8.Proofs.Successors

/-!
# The program counter never wraps

An instruction is only executed where it fits into memory, and from there none continues beyond
`0x10FE`: a skip adds four, and a jump with an offset adds a byte to an address. What a call puts on
the stack lies at most two behind an instruction, and an instruction that waits for a key was executed
where it stands. These facts keep each other up (`Bounded`). So as long as no host sets the program
counter, its sixteen bits hold every address that a program continues at.
-/

namespace Chip8

namespace Machine

variable {machine after : Machine} {instruction : Instruction} {word : UInt16}

/-! ## The invariant -/

/-- The program counter and the stack are where a program can bring them. -/
structure Bounded (machine : Machine) : Prop where
  pc : machine.processor.pc.toNat ≤ 0x10FE
  live : ∀ address ∈ machine.live, 2 ≤ address ∧ address ≤ 0x1000
  waits : machine.isWaiting = true → machine.processor.pc.toNat ≤ 0xFFE

lemma bounded_powerOn (rom : Rom) (random : RandomSource) (spritesWrap : Bool) :
    (powerOn rom random spritesWrap).Bounded where
  pc := by
    show (0x200 : UInt16).toNat ≤ 0x10FE
    decide
  live := nofun
  waits := nofun

/-- No instruction continues beyond the bound. -/
lemma successor_le (bounded : machine.Bounded) (fits : machine.processor.pc.toNat ≤ 0xFFE)
    (instruction : Instruction) : instruction.successor machine ≤ 0x10FE := by
  have behind (skips : Bool) : machine.behind skips ≤ 0x1002 := by
    unfold behind
    cases skips <;> simp <;> omega
  have next := behind false
  cases instruction
  case ret =>
    rw [Instruction.successor]
    rcases machine.live.eq_nil_or_concat with empty | ⟨rest, newest, live⟩
    · rw [empty]
      exact Nat.zero_le _
    · have known := bounded.live newest (by simp [live])
      rw [live, List.concat_eq_append, List.getLastD_concat]
      omega
  case jump target =>
    have small := target.isLt
    rw [Instruction.successor]
    omega
  case call target =>
    have small := target.isLt
    rw [Instruction.successor]
    omega
  case jumpOffset target =>
    have small := target.isLt
    have offset := (machine.processor.getV .offset).toNat_lt
    rw [Instruction.successor]
    omega
  case awaitKey x =>
    rw [Instruction.successor]
    split <;> omega
  case skipIfByte x byte => exact (behind _).trans (by decide)
  case skipUnlessByte x byte => exact (behind _).trans (by decide)
  case skipIfEqual x y => exact (behind _).trans (by decide)
  case skipUnlessEqual x y => exact (behind _).trans (by decide)
  case skipIfDown x => exact (behind _).trans (by decide)
  case skipIfUp x => exact (behind _).trans (by decide)
  all_goals exact next.trans (by decide)

/-- An address within the bound fits into the program counter. -/
lemma toNat_ofNat_of_bounded {address : Nat} (small : address ≤ 0x10FE) :
    (UInt16.ofNat address).toNat = address := by
  rw [UInt16.toNat_ofNat']
  omega

/-- The program counter holds the whole address at which an instruction continues. -/
lemma toNat_pc_of_perform (bounded : machine.Bounded) (fits : machine.processor.pc.toNat ≤ 0xFFE)
    (performed : perform instruction machine = .ok () after) :
    after.processor.pc.toNat = instruction.successor machine := by
  rw [pc_of_perform performed, toNat_ofNat_of_bounded (successor_le bounded fits instruction)]

/-! ## Steps -/

/-- Polling the keypad where an instruction fits keeps the bounds. -/
lemma bounded_pollKey (fits : machine.processor.pc.toNat ≤ 0xFFE)
    (live : ∀ address ∈ machine.live, 2 ≤ address ∧ address ≤ 0x1000)
    (polled : Action.pollKey machine = .ok () after) : after.Bounded := by
  rw [run_pollKey] at polled
  cases lowest : machine.keypad.lowestDown? with
  | none =>
    rw [lowest] at polled
    cases polled
    exact ⟨by omega, live, fun _ => fits⟩
  | some key =>
    rw [lowest] at polled
    cases polled
    refine ⟨?_, live, nofun⟩
    show (machine.processor.pc + 2).toNat ≤ 0x10FE
    rw [UInt16.toNat_add]
    have two : (2 : UInt16).toNat = 2 := rfl
    omega

lemma live_of_perform (bounded : machine.Bounded) (fits : machine.processor.pc.toNat ≤ 0xFFE)
    (performed : perform instruction machine = .ok () after) :
    ∀ address ∈ after.live, 2 ≤ address ∧ address ≤ 0x1000 := by
  intro address member
  by_cases calls : ∃ target, instruction = .call target
  · obtain ⟨target, rfl⟩ := calls
    rw [(perform_call performed).1, List.mem_append, List.mem_singleton] at member
    rcases member with older | rfl
    · exact bounded.live address older
    · omega
  · by_cases returns : instruction = .ret
    · subst returns
      obtain ⟨newest, shrunk, -⟩ := perform_ret performed
      exact bounded.live address (by simp [shrunk, member])
    · have within := footprint_perform instruction machine
      rw [performed] at within
      have kept : after.live = machine.live :=
        congrArg CallStack.live (within.stack (fun target same => calls ⟨target, same⟩) returns)
      rw [kept] at member
      exact bounded.live address member

/-- An instruction that is executed where it fits keeps the bounds. -/
lemma bounded_perform (bounded : machine.Bounded) (runs : machine.isWaiting = false)
    (fits : machine.processor.pc.toNat ≤ 0xFFE)
    (performed : perform instruction machine = .ok () after) : after.Bounded := by
  by_cases awaits : ∃ x, instruction = .awaitKey x
  · obtain ⟨x, rfl⟩ := awaits
    have polled : Action.pollKey
        (machine.mapProcessor ({ · with awaitsKey := true, keyRegister := x })) = .ok () after :=
      performed
    refine bounded_pollKey ?_ ?_ polled
    · exact fits
    · exact bounded.live
  · have within := footprint_perform instruction machine
    rw [performed] at within
    have still : after.isWaiting = false := by
      rw [← runs]
      exact within.wait fun x same => awaits ⟨x, same⟩
    refine ⟨?_, live_of_perform bounded fits performed, ?_⟩
    · rw [toNat_pc_of_perform bounded fits performed]
      exact successor_le bounded fits instruction
    · intro waits
      rw [still] at waits
      cases waits

/-- Within the bounds, a step that completes begins where an instruction fits. -/
lemma fits_of_step (bounded : machine.Bounded) (stepped : step machine = .ok () after) :
    machine.processor.pc.toNat ≤ 0xFFE := by
  rcases step_completes_cases stepped with ⟨waits, -⟩ | ⟨word, upcoming, -⟩
  · exact bounded.waits waits
  · exact fetch_ok_iff.1 ⟨word, (upcoming?_eq_some_iff.1 upcoming).2⟩

/-- A poll stays at the instruction that waits or continues behind it. -/
lemma toNat_pc_of_poll (bounded : machine.Bounded) (waits : machine.isWaiting = true)
    (stepped : step machine = .ok () after) :
    after.processor.pc.toNat =
      machine.processor.pc.toNat + if machine.keypad.lowestDown?.isSome then 2 else 0 := by
  have fits := fits_of_step bounded stepped
  rw [step_of_isWaiting waits, adaptExcept_eq_ok_iff] at stepped
  rw [pc_of_pollKey stepped .first, toNat_ofNat_of_bounded (successor_le bounded fits _),
    Instruction.successor]
  split <;> rfl

/-- A step keeps the bounds. -/
lemma bounded_step (bounded : machine.Bounded) : (leaves machine.step).Bounded := by
  cases stepped : machine.step with
  | error fault after =>
    rw [step_of_error stepped]
    exact bounded
  | ok answer after =>
    have fits := fits_of_step bounded stepped
    rcases step_completes_cases stepped with ⟨waits, polled⟩ | ⟨word, upcoming, performed⟩
    · exact bounded_pollKey fits bounded.live polled
    · exact bounded_perform bounded (upcoming?_eq_some_iff.1 upcoming).1 fits performed

lemma Bounded.tick (bounded : machine.Bounded) : machine.tick.Bounded :=
  ⟨bounded.pc, bounded.live, bounded.waits⟩

lemma bounded_cycle (bounded : machine.Bounded) : (leaves machine.cycle).Bounded := by
  have stepped := bounded_step bounded
  rw [run_cycle]
  cases h : machine.step with
  | error fault after => rwa [h] at stepped
  | ok answer after =>
    rw [h] at stepped
    exact Bounded.tick stepped

/-! ## Operations -/

/-- Whether by an operation a host can bring the program counter anywhere. -/
def Operation.movesPc : Operation → Bool
  | .execute _ | .assign .pc _ => true
  | _ => false

/-- What else a host does keeps the bounds. -/
lemma bounded_operate (bounded : machine.Bounded) {operation : Operation}
    (still : operation.movesPc = false) : (machine.operate operation).Bounded := by
  have apart (memory : Memory) : Bounded { machine with memory } :=
    ⟨bounded.pc, bounded.live, bounded.waits⟩
  have remembered {ε : Type} (memory : Except ε Memory) : (machine.remember memory).Bounded := by
    obtain ⟨other, same⟩ := machine.remember_eq memory
    rw [same]
    exact apart other
  have latched {ε : Type} (keypad : Except ε Keypad) : (machine.latch keypad).Bounded := by
    obtain ⟨other, same⟩ := machine.latch_eq keypad
    rw [same]
    exact ⟨bounded.pc, bounded.live, bounded.waits⟩
  cases operation
  case step => exact bounded_step bounded
  case cycle => exact bounded_cycle bounded
  case execute word => cases still
  case resetProcessor =>
    refine ⟨?_, nofun, nofun⟩
    show (0x200 : UInt16).toNat ≤ 0x10FE
    decide
  case assign register number =>
    cases register
    case pc => cases still
    all_goals exact ⟨bounded.pc, bounded.live, bounded.waits⟩
  case write address number => exact remembered _
  case writeBytes address data => exact remembered _
  case loadRom rom => exact remembered _
  case resetMemory => exact apart .blank
  case setKeys states => exact latched _
  case setKey reference isDown => exact latched _
  all_goals exact ⟨bounded.pc, bounded.live, bounded.waits⟩

lemma bounded_operateAll (bounded : machine.Bounded) {operations : List Operation}
    (still : ∀ operation ∈ operations, operation.movesPc = false) :
    (machine.operateAll operations).Bounded := by
  induction operations generalizing machine with
  | nil => exact bounded
  | cons operation rest ih =>
    obtain ⟨first, later⟩ := List.forall_mem_cons.1 still
    exact ih (bounded_operate bounded first) later

end Machine

namespace Session

variable {session initial : Session} {operations : List Operation}

/-! ## Sessions -/

/-- A machine is one that a session goes through while it is operated on, also in the middle of a
run: some first part of the chronicle leaves it. -/
def Passes (initial : Session) (operations : List Operation) (machine : Machine) : Prop :=
  ∃ earlier, earlier <+: chronicle initial operations ∧
    machine = initial.machine.operateAll earlier

lemma passes_operateAll (initial : Session) (operations : List Operation) :
    Passes initial operations (initial.operateAll operations).machine :=
  ⟨_, List.prefix_rfl, machine_operateAll operations initial⟩

/-- What a session does to its machine never moves the program counter anywhere, unless a host
operates on the machine itself. -/
lemma movesPc_of_mem_chronicle
    (still : ∀ operation, .machine operation ∈ operations → operation.movesPc = false)
    {entry : Machine.Operation} (member : entry ∈ chronicle session operations) :
    entry.movesPc = false := by
  obtain ⟨operation, inside, between, found⟩ := mem_chronicle member
  cases operation
  case debugger operation => cases found
  case machine operation =>
    obtain rfl := List.mem_singleton.1 found
    exact still entry inside
  case reset =>
    simp only [work, List.mem_cons, List.not_mem_nil, or_false] at found
    rcases found with rfl | rfl | rfl | rfl | rfl <;> rfl
  case stepGated =>
    rw [work] at found
    split at found
    · rw [List.mem_singleton.1 found]
      rfl
    · cases found
  case cycleGated =>
    rw [work] at found
    split at found
    · rw [List.mem_singleton.1 found]
      rfl
    · cases found
  all_goals
    have running := (account_operate rfl between).running entry found
    cases entry <;> first | rfl | cases running

/-- Every machine that a session goes through is within the bounds. -/
lemma bounded_of_passes {settings : Settings} {random : RandomSource}
    {image : Except Error (List UInt8)} {machine : Machine}
    (started : start settings random image = .ok initial)
    (still : ∀ operation, .machine operation ∈ operations → operation.movesPc = false)
    (passes : Passes initial operations machine) : machine.Bounded := by
  obtain ⟨rom, positive, -, rfl⟩ := start_eq_ok_iff.1 started
  obtain ⟨earlier, first, rfl⟩ := passes
  refine Machine.bounded_operateAll (Machine.bounded_powerOn rom random settings.spritesWrap) ?_
  intro entry member
  exact movesPc_of_mem_chronicle still (first.subset member)

/-- The program counter never wraps. Whatever a host does with a session, other than setting the
program counter or executing words that are not in memory, in every machine that it goes through the
program counter is at most `0x10FE` and every address in use on the stack lies between `2` and
`0x1000`. From each of them an instruction is executed only where it fits, and the program counter
then is the whole address at which it continues. So a call puts the address behind itself on the stack
and a return continues exactly at the address that it takes off. A poll that ends a wait continues
behind the instruction that waited. -/
theorem program_counter_never_wraps {settings : Settings} {random : RandomSource}
    {image : Except Error (List UInt8)}
    (started : start settings random image = .ok initial)
    (still : ∀ operation, .machine operation ∈ operations → operation.movesPc = false) :
    Passes initial operations (initial.operateAll operations).machine ∧
    ∀ machine, Passes initial operations machine →
      machine.processor.pc.toNat ≤ 0x10FE ∧
      (∀ address ∈ machine.live, 2 ≤ address ∧ address ≤ 0x1000) ∧
      ∀ after, machine.step = .ok () after →
        machine.processor.pc.toNat ≤ 0xFFE ∧
        (∀ word, machine.upcoming? = some word →
          after.processor.pc.toNat = (Instruction.decode word).successor machine ∧
          (∀ target, Instruction.decode word = .call target →
            after.live = machine.live ++ [machine.processor.pc.toNat + 2]) ∧
          (Instruction.decode word = .ret →
            machine.live = after.live ++ [after.processor.pc.toNat])) ∧
        (machine.isWaiting = true → after.processor.pc.toNat =
          machine.processor.pc.toNat + if machine.keypad.lowestDown?.isSome then 2 else 0) := by
  refine ⟨passes_operateAll initial operations, ?_⟩
  intro machine passes
  have bounded := bounded_of_passes started still passes
  refine ⟨bounded.pc, bounded.live, ?_⟩
  intro after stepped
  have fits := Machine.fits_of_step bounded stepped
  refine ⟨fits, ?_, fun waits => Machine.toNat_pc_of_poll bounded waits stepped⟩
  intro word upcoming
  have performed := Machine.performed_of_step stepped upcoming
  refine ⟨Machine.toNat_pc_of_perform bounded fits performed, ?_, ?_⟩
  · intro target calls
    rw [calls] at performed
    exact (Machine.perform_call performed).1
  · intro returns
    rw [returns] at performed
    obtain ⟨newest, shrunk, jumped⟩ := Machine.perform_ret performed
    have known := bounded.live newest (by simp [shrunk])
    rw [jumped, Machine.toNat_ofNat_of_bounded (by omega)]
    exact shrunk

/-- A program that calls a routine which returns at once, and then jumps as far as it can. -/
def edgeRom : Rom where
  bytes := [0x60, 0xFF, 0x22, 0x06, 0xBF, 0xFF, 0x00, 0xEE]
  fits := by decide

/-- A session that is about to leave memory. -/
def leaving : Session := powerOn edgeRom 1 Nat.one_pos (.ofStream fun _ => 0) false

/-- In the middle of the run the program returns to where the call had put on the stack. At its end the
program counter stands at the bound, and the next cycle faults. -/
theorem program_counter_never_wraps_at_edge :
    (leaving.operateAll [.run 9 false]).pc.toNat = 0x10FE ∧
    (leaving.operateAll [.run 9 false]).machine.processor.pc.toNat ≤ 0x10FE ∧
    ∃ machine after, Passes leaving [.run 9 false] machine ∧ machine.step = .ok () after ∧
      machine.live = [0x204] ∧ machine.live = after.live ++ [after.processor.pc.toNat] := by
  have started : start {} (.ofStream fun _ => 0) (.ok edgeRom.bytes) = .ok leaving := rfl
  have still (operation : Machine.Operation)
      (member : Operation.machine operation ∈ [.run 9 false]) : operation.movesPc = false := by
    simp at member
  obtain ⟨ends, bounds⟩ := program_counter_never_wraps started still
  let machine := leaving.machine.operateAll [.step, .tick, .step, .tick]
  have passes : Passes leaving [.run 9 false] machine := ⟨_, by decide +kernel, rfl⟩
  have upcoming : machine.upcoming? = some 0x00EE := by decide +kernel
  obtain ⟨harmless, live⟩ : machine.fault? = none ∧ machine.live = [0x204] := by decide +kernel
  rcases machine.step_cases with ⟨fault, known, -⟩ | ⟨-, after, stepped⟩
  · rw [harmless] at known
    cases known
  · obtain ⟨-, -, steps⟩ := bounds machine passes
    obtain ⟨-, words, -⟩ := steps after stepped
    obtain ⟨-, -, returns⟩ := words 0x00EE upcoming
    exact ⟨by decide +kernel, (bounds _ ends).1, machine, after, passes, stepped, live,
      returns (by decide)⟩

end Session

end Chip8
