import Chip8.Proofs.Chronicle
import Chip8.Proofs.DebuggerTransparency

/-!
# The timers follow the cycles

A session counts its timers down once in every period of so many cycles, whoever runs the cycles and
however they are interrupted. The counter since the last tick is the number of cycles modulo the
period, and the number of ticks is the quotient (`tally_operateAll`). A timer that nobody sets goes
down by one with every tick until it is zero (`Timer.read_operateAll`).
-/

namespace Chip8

/-! ## Timers -/

/-- The timers of the processor. -/
inductive Timer
  | delay
  | sound
deriving DecidableEq, Repr

namespace Timer

/-- What a timer shows. -/
def read : Timer → Machine → UInt8
  | .delay, machine => machine.processor.delay
  | .sound, machine => machine.processor.sound

/-- The register that a host sets a timer with. -/
def register : Timer → Processor.Special
  | .delay => .delay
  | .sound => .sound

/-- Whether an instruction sets a timer. -/
def isSetBy : Timer → Instruction → Bool
  | .delay, .setDelay _ => true
  | .sound, .setSound _ => true
  | _, _ => false

/-- Whether a host sets a timer by an operation. -/
def isSetByHost (timer : Timer) : Machine.Operation → Bool
  | .assign register _ => register = timer.register
  | .resetProcessor => true
  | _ => false

variable {machine after : Machine} {instruction : Instruction} {operation : Machine.Operation}

/-- A tick takes one off, unless the timer is at zero. -/
lemma read_tick (timer : Timer) (machine : Machine) :
    (timer.read machine.tick).toNat = (timer.read machine).toNat - 1 := by
  have counted (byte : UInt8) : (if byte = 0 then 0 else byte - 1).toNat = byte.toNat - 1 := by
    by_cases zero : byte = 0
    · rw [if_pos zero, zero]
      rfl
    · have positive : byte.toNat ≠ 0 := fun same => zero (UInt8.toNat_inj.1 same)
      have one : (1 : UInt8) ≤ byte := by
        rw [UInt8.le_iff_toNat_le]
        show 1 ≤ byte.toNat
        omega
      rw [if_neg zero, UInt8.toNat_sub_of_le _ _ one]
      rfl
  cases timer
  · exact counted machine.processor.delay
  · exact counted machine.processor.sound

/-- Only the instruction that sets a timer changes it. -/
lemma read_of_footprint (timer : Timer) (within : Machine.Footprint instruction machine after)
    (other : timer.isSetBy instruction = false) : timer.read after = timer.read machine := by
  cases timer
  · refine within.delay fun x same => ?_
    rw [same] at other
    cases other
  · refine within.sound fun x same => ?_
    rw [same] at other
    cases other

lemma read_step (timer : Timer)
    (others : ∀ instruction, machine.executed? .step = some instruction →
      timer.isSetBy instruction = false) :
    timer.read (leaves machine.step) = timer.read machine := by
  cases stepped : machine.step with
  | error fault after =>
    rw [Machine.step_of_error stepped]
    rfl
  | ok answer after =>
    obtain ⟨instruction, within, ⟨-, x, rfl⟩ | ⟨word, upcoming, rfl⟩⟩ :=
      Machine.footprint_step stepped
    · exact timer.read_of_footprint within (by cases timer <;> rfl)
    · refine timer.read_of_footprint within (others _ ?_)
      rw [Machine.executed?, stepped, upcoming]
      rfl

lemma read_execute (timer : Timer) {word : Int}
    (others : ∀ instruction, machine.executed? (.execute word) = some instruction →
      timer.isSetBy instruction = false) :
    timer.read (leaves (machine.execute (.ofInt word))) = timer.read machine := by
  have within := Machine.footprint_perform (Instruction.decode (.ofInt word)) machine
  rw [Machine.execute, leaves_adaptExcept]
  cases performed : Machine.perform (Instruction.decode (.ofInt word)) machine with
  | error cause after =>
    rw [Machine.perform_error performed]
    rfl
  | ok answer after =>
    rw [performed] at within
    refine timer.read_of_footprint within (others _ ?_)
    rw [Machine.executed?, Machine.execute, run_adaptExcept, performed]

/-- An operation that is not a tick and sets no timer leaves it alone. -/
lemma read_operate_of_idle (timer : Timer) (unset : timer.isSetByHost operation = false)
    (single : operation ≠ .cycle) (idle : operation.isTick = false)
    (others : ∀ instruction, machine.executed? operation = some instruction →
      timer.isSetBy instruction = false) :
    timer.read (machine.operate operation) = timer.read machine := by
  have apart (memory : Memory) : timer.read { machine with memory } = timer.read machine := by
    cases timer <;> rfl
  have remembered {ε : Type} (memory : Except ε Memory) :
      timer.read (machine.remember memory) = timer.read machine := by
    obtain ⟨other, same⟩ := machine.remember_eq memory
    rw [same, apart other]
  have latched {ε : Type} (keypad : Except ε Keypad) :
      timer.read (machine.latch keypad) = timer.read machine := by
    obtain ⟨other, same⟩ := machine.latch_eq keypad
    rw [same]
    cases timer <;> rfl
  -- A program runs in two of them. The others do not touch the timers, also if they are refused.
  cases operation
  case cycle => exact absurd rfl single
  case tick => cases idle
  case step => exact timer.read_step others
  case execute word => exact timer.read_execute others
  case resetProcessor => cases unset
  case assign register number =>
    cases timer <;> cases register <;> first | rfl | cases unset
  case write address number => exact remembered _
  case writeBytes address data => exact remembered _
  case loadRom rom => exact remembered _
  case setKeys states => exact latched _
  case setKey reference isDown => exact latched _
  case resetMemory => exact apart .blank
  all_goals cases timer <;> rfl

lemma read_operate (timer : Timer) (unset : timer.isSetByHost operation = false)
    (single : operation ≠ .cycle)
    (others : ∀ instruction, machine.executed? operation = some instruction →
      timer.isSetBy instruction = false) :
    (timer.read (machine.operate operation)).toNat =
      (timer.read machine).toNat - if operation.isTick then 1 else 0 := by
  cases idle : operation.isTick with
  | false =>
    rw [timer.read_operate_of_idle unset single idle others]
    rfl
  | true =>
    cases operation <;> cases idle
    exact timer.read_tick machine

/-- A timer that is not set goes down by one with every tick until it is zero. -/
lemma read_operateAll (timer : Timer) {operations : List Machine.Operation}
    (unset : ∀ operation ∈ operations, timer.isSetByHost operation = false ∧ operation ≠ .cycle)
    (others : ∀ instruction ∈ machine.executedAll operations, timer.isSetBy instruction = false) :
    (timer.read (machine.operateAll operations)).toNat =
      (timer.read machine).toNat - operations.countP (·.isTick) := by
  -- On the operations, for the machine that the first of them leaves.
  induction operations generalizing machine with
  | nil => rfl
  | cons operation rest ih =>
    obtain ⟨⟨unset, single⟩, unset'⟩ := List.forall_mem_cons.1 unset
    rw [Machine.executedAll, List.forall_mem_append] at others
    obtain ⟨first, later⟩ := others
    have counted := timer.read_operate unset single fun instruction executed =>
      first instruction (Option.mem_toList.2 executed)
    have continued := ih unset' later
    rw [counted, Nat.sub_sub, Nat.add_comm] at continued
    rw [List.countP_cons]
    exact continued

end Timer

namespace Session

variable {session between after : Session}

/-! ## Counters -/

/-- Whether the session counts the cycles of an operation, if it runs any, and goes on counting. -/
def Operation.isCounted : Operation → Bool
  | .reset | .stepGated | .cycleGated | .machine .step | .machine .cycle => false
  | _ => true

/-- Whether an operation is a tick by hand. -/
def Operation.isTick : Operation → Bool
  | .machine .tick => true
  | _ => false

/-- The counters agree with the work done on the machine, of which some ticks were made by hand. -/
structure Tally (session : Session) (work : List Machine.Operation) (byHand : Nat)
    (after : Session) : Prop where
  period : after.cyclesPerTick = session.cyclesPerTick
  cycles : after.cycles = session.cycles + work.countP (·.isStep)
  ticks : session.sinceTick < session.cyclesPerTick →
    after.sinceTick < session.cyclesPerTick ∧
      after.sinceTick + session.cyclesPerTick * work.countP (·.isTick) =
        session.sinceTick + work.countP (·.isStep) + session.cyclesPerTick * byHand

lemma Account.tally {work : List Machine.Operation} (account : Account session work after) :
    Tally session work 0 after :=
  ⟨account.period, account.cycles, account.ticks⟩

lemma Tally.append {first rest : List Machine.Operation} {byHand byHand' : Nat}
    (begun : Tally session first byHand between) (continued : Tally between rest byHand' after) :
    Tally session (first ++ rest) (byHand + byHand') after where
  period := continued.period.trans begun.period
  cycles := by
    rw [List.countP_append, continued.cycles, begun.cycles]
    omega
  ticks small := by
    obtain ⟨below, early⟩ := begun.ticks small
    have rest := continued.ticks
    rw [begun.period] at rest
    obtain ⟨below', late⟩ := rest below
    refine ⟨below', ?_⟩
    rw [List.countP_append, List.countP_append, Nat.mul_add, Nat.mul_add]
    omega

lemma tally_operate {operation : Operation} (counted : operation.isCounted = true)
    (session : Session) :
    Tally session (work operation session) (if operation.isTick then 1 else 0)
      (session.operate operation) := by
  cases operation
  case debugger operation => exact ⟨rfl, rfl, fun small => ⟨small, rfl⟩⟩
  case machine operation =>
    -- Past the session, only a tick concerns the counters.
    have still : operation.isStep = false := by cases operation <;> first | rfl | cases counted
    have byHand : Operation.isTick (.machine operation) = operation.isTick := by
      cases operation <;> rfl
    have steps : (work (.machine operation) session).countP (·.isStep) = 0 := by
      simp [work, still]
    have ticks : (work (.machine operation) session).countP (·.isTick) =
        if operation.isTick then 1 else 0 := by
      simp [work, List.countP_singleton]
    rw [byHand]
    refine ⟨rfl, ?_, fun small => ⟨small, ?_⟩⟩
    · rw [steps]
      rfl
    · rw [steps, ticks]
      rfl
  case reset => cases counted
  case stepGated => cases counted
  case cycleGated => cases counted
  all_goals exact (account_operate rfl session).tally

lemma tally_operateAll {operations : List Operation}
    (counted : ∀ operation ∈ operations, operation.isCounted = true) (session : Session) :
    Tally session (chronicle session operations) (operations.countP (·.isTick))
      (session.operateAll operations) := by
  induction operations generalizing session with
  | nil => exact ⟨rfl, rfl, fun small => ⟨small, rfl⟩⟩
  | cons operation rest ih =>
    obtain ⟨first, later⟩ := List.forall_mem_cons.1 counted
    rw [List.countP_cons, Nat.add_comm]
    exact (tally_operate first session).append (ih later (session.operate operation))

/-! ## The counter since the last tick -/

/-- The counter since the last tick is what the periods leave of all cycles. -/
def InStep (session : Session) : Prop :=
  session.sinceTick = session.cycles % session.cyclesPerTick

/-- Counting keeps the counters in step, and a tick is made for every period that becomes full. -/
lemma Tally.inStep {work : List Machine.Operation} {byHand : Nat}
    (tally : Tally session work byHand after) (inStep : session.InStep) :
    after.InStep ∧ work.countP (·.isTick) + session.cycles / session.cyclesPerTick =
      after.cycles / session.cyclesPerTick + byHand := by
  have positive := session.cyclesPerTick_pos
  have small : session.sinceTick < session.cyclesPerTick := by
    rw [inStep]
    exact Nat.mod_lt _ positive
  obtain ⟨below, counted⟩ := tally.ticks small
  -- All cycles, those that full periods would stand for included, in full periods and a rest.
  have full : after.cycles + session.cyclesPerTick * byHand =
      session.cyclesPerTick *
        (work.countP (·.isTick) + session.cycles / session.cyclesPerTick) + after.sinceTick := by
    have before := Nat.div_add_mod session.cycles session.cyclesPerTick
    rw [← inStep] at before
    rw [tally.cycles, Nat.mul_add]
    omega
  have rest := congrArg (· % session.cyclesPerTick) full
  have periods := congrArg (· / session.cyclesPerTick) full
  simp only [Nat.add_mul_mod_self_left, Nat.mul_add_mod, Nat.mod_eq_of_lt below] at rest
  simp only [Nat.add_mul_div_left _ _ positive, Nat.mul_add_div positive,
    Nat.div_eq_of_lt below, Nat.add_zero] at periods
  constructor
  · unfold InStep
    rw [tally.period, rest]
  · exact periods.symm

/-- Whatever a host does, the counters stay in step. -/
lemma inStep_operate (inStep : session.InStep) (operation : Operation) :
    (session.operate operation).InStep := by
  cases counted : operation.isCounted with
  | true => exact ((tally_operate counted session).inStep inStep).1
  | false =>
    cases operation
    case reset => exact (Nat.zero_mod _).symm
    case machine operation => exact inStep
    case stepGated => exact inStep
    case cycleGated => exact inStep
    all_goals cases counted

lemma inStep_operateAll (inStep : session.InStep) (operations : List Operation) :
    (session.operateAll operations).InStep := by
  induction operations generalizing session with
  | nil => exact inStep
  | cons operation rest ih => exact ih (inStep_operate inStep operation)

/-! ## Single cycles -/

lemma cycles_of_completed (cycled : session.cycle = .ok true after) :
    after.cycles = session.cycles + 1 := by
  obtain ⟨machine, debugger, -, -, rfl⟩ := step_of_completed cycled
  exact completeCycle_cycles _

/-- Polling the keypad is a cycle like any other. -/
lemma cycle_completes_of_isWaiting (waits : session.machine.isWaiting = true) :
    ∃ after, session.cycle = .ok true after := by
  rcases session.machine.step_cases with ⟨fault, known, -⟩ | ⟨-, polled, stepped⟩
  · unfold Machine.fault? at known
    rw [waits] at known
    cases known
  · exact ⟨_, cycle_of_isWaiting waits stepped⟩

/-- If every cycle is a period, the timers are counted down with each. -/
lemma machine_completeCycle_of_one (one : session.cyclesPerTick = 1) (machine : Machine)
    (debugger : Debugger) :
    (completeCycle { session with machine, debugger }).machine = machine.tick := by
  unfold completeCycle
  rw [if_pos (by dsimp only; omega)]

/-- If every cycle is a period, a cycle of a session does what the machine does under its gate. -/
lemma machine_cycle_of_period_one (one : session.cyclesPerTick = 1) :
    (leaves session.cycle).machine =
      (leaves (Machine.cycleGated gate (session.machine, session.debugger))).1 := by
  rw [Machine.machine_cycleGated, cycle_eq, Machine.run_cycle]
  rcases session.machine.ask gate session.debugger with ⟨_ | _, debugger⟩
  · rfl
  · dsimp only
    cases session.machine.step with
    | ok answer machine => exact machine_completeCycle_of_one one machine debugger
    | error fault machine => rfl

/-- If every cycle is a period, a cycle of a session that nobody stops is one of its machine. -/
lemma cycle_of_period_one (one : session.cyclesPerTick = 1) (quiet : session.debugger.IsQuiet) :
    (∀ machine, session.machine.cycle = .ok () machine →
      ∃ after, session.cycle = .ok true after ∧ after.machine = machine) ∧
    ∀ fault machine, session.machine.cycle = .error fault machine →
      ∃ after, session.cycle = .error fault after ∧ after.machine = machine := by
  obtain ⟨debugger, -, cycled⟩ := session.cycle_of_quiet quiet
  rw [cycled, Machine.run_cycle]
  cases session.machine.step with
  | ok answer machine =>
    constructor
    · intro other cycled
      cases cycled
      exact ⟨_, rfl, machine_completeCycle_of_one one machine debugger⟩
    · intro fault other failed
      cases failed
  | error fault machine =>
    constructor
    · intro other cycled
      cases cycled
    · intro trouble other failed
      cases failed
      exact ⟨_, rfl, rfl⟩

/-! ## The theorem -/

/-- What counted operations do to the machine sets no timer, if the host does not. -/
lemma unset_of_mem_chronicle {timer : Timer} {operations : List Operation}
    (counted : ∀ operation ∈ operations, operation.isCounted = true)
    (unset : ∀ operation, .machine operation ∈ operations → timer.isSetByHost operation = false)
    {entry : Machine.Operation} (member : entry ∈ chronicle session operations) :
    timer.isSetByHost entry = false ∧ entry ≠ .cycle := by
  have ofRunning (running : entry.isRunning = true) :
      timer.isSetByHost entry = false ∧ entry ≠ .cycle := by
    cases entry
    case step => exact ⟨rfl, nofun⟩
    case tick => exact ⟨rfl, nofun⟩
    case setKeys states => exact ⟨rfl, nofun⟩
    all_goals cases running
  obtain ⟨operation, inside, between, found⟩ := mem_chronicle member
  have countedHere := counted operation inside
  cases operation
  case debugger operation => cases found
  case machine operation =>
    obtain rfl := List.mem_singleton.1 found
    refine ⟨unset entry inside, ?_⟩
    rintro rfl
    cases countedHere
  case reset => cases countedHere
  case stepGated => cases countedHere
  case cycleGated => cases countedHere
  all_goals exact ofRunning ((account_operate rfl between).running entry found)

/-- The timers follow the cycles. Whatever a host has done with a session, the counter since the
last tick is the number of cycles modulo the period, both starting from zero when the session starts
or is reset. In any stretch of operations that the session counts, as many steps are made on the
machine as cycles are counted, and besides the ticks by hand as many ticks as periods become full.
So a timer that neither the program nor the host sets goes down by these ticks, to zero at most.

A cycle that completes counts one, also if it polls the keypad; a cycle that is stopped or faults
changes nothing but the debugger. If every cycle is a period, the machine goes through the cycle
that it would go through by itself. -/
theorem timers_follow_cycles {settings : Settings} {random : RandomSource}
    {image : Except Error (List UInt8)} {initial : Session}
    (started : start settings random image = .ok initial) (operations : List Operation) :
    let session := initial.operateAll operations
    let period := session.cyclesPerTick
    ((period : Int) = settings.cyclesPerTick ∧
      session.sinceTick = session.cycles % period ∧
      initial.cycles = 0 ∧ session.reset.cycles = 0) ∧
    (∀ stretch : List Operation, (∀ operation ∈ stretch, operation.isCounted = true) →
      let finish := session.operateAll stretch
      let work := session.chronicle stretch
      finish.machine = session.machine.operateAll work ∧
      finish.cycles = session.cycles + work.countP (·.isStep) ∧
      work.countP (·.isTick) + session.cycles / period =
        finish.cycles / period + stretch.countP (·.isTick) ∧
      ∀ timer : Timer,
        (∀ operation, .machine operation ∈ stretch → timer.isSetByHost operation = false) →
        (∀ instruction ∈ session.machine.executedAll work, timer.isSetBy instruction = false) →
        (timer.read finish.machine).toNat =
          (timer.read session.machine).toNat -
            (finish.cycles / period - session.cycles / period) - stretch.countP (·.isTick)) ∧
    ((∀ after, session.cycle = .ok true after → after.cycles = session.cycles + 1) ∧
      (session.machine.isWaiting = true → ∃ after, session.cycle = .ok true after) ∧
      (∀ after,
        (session.cycle = .ok false after ∨ ∃ fault, session.cycle = .error fault after) →
        after = { session with debugger := after.debugger }) ∧
      ∀ fault after, session.cycleUnchecked = .error fault after → after = session) ∧
    (period = 1 →
      (leaves session.cycle).machine =
        (leaves (Machine.cycleGated gate (session.machine, session.debugger))).1 ∧
      (session.debugger.IsQuiet →
        (∀ machine, session.machine.cycle = .ok () machine →
          ∃ after, session.cycle = .ok true after ∧ after.machine = machine) ∧
        ∀ fault machine, session.machine.cycle = .error fault machine →
          ∃ after, session.cycle = .error fault after ∧ after.machine = machine)) := by
  intro session period
  obtain ⟨rom, positive, -, rfl⟩ := start_eq_ok_iff.1 started
  have begins : InStep (powerOn rom settings.cyclesPerTick.toNat positive random
      settings.spritesWrap) := (Nat.zero_mod _).symm
  have inStep := inStep_operateAll begins operations
  have kept : period = settings.cyclesPerTick.toNat := (setup_operateAll operations _).2
  refine ⟨⟨by omega, inStep, rfl, rfl⟩, ?_, ?_, ?_⟩
  · intro stretch counted finish work
    have true : finish.machine = session.machine.operateAll work :=
      machine_operateAll stretch session
    have tally := tally_operateAll counted session
    have ticks : work.countP (·.isTick) + session.cycles / period =
        finish.cycles / period + stretch.countP (·.isTick) := (tally.inStep inStep).2
    refine ⟨true, tally.cycles, ticks, ?_⟩
    intro timer unset others
    have counts : (timer.read (session.machine.operateAll work)).toNat =
        (timer.read session.machine).toNat - work.countP (·.isTick) :=
      timer.read_operateAll
        (fun entry member => unset_of_mem_chronicle counted unset member) others
    have later : session.cycles / period ≤ finish.cycles / period :=
      Nat.div_le_div_right (tally.cycles ▸ Nat.le_add_right _ _)
    rw [true, counts]
    omega
  · refine ⟨?_, ?_, ?_, ?_⟩
    · intro after cycled
      exact cycles_of_completed cycled
    · intro waits
      exact cycle_completes_of_isWaiting waits
    · intro after cycled
      exact eq_of_not_completed cycled
    · intro fault after cycled
      rw [cycleUnchecked_eq] at cycled
      cases stepped : session.machine.step with
      | ok answer machine =>
        rw [stepped] at cycled
        cases cycled
      | error trouble machine =>
        rw [stepped, Machine.step_of_error stepped] at cycled
        cases cycled
        rfl
  · intro one
    exact ⟨machine_cycle_of_period_one one, cycle_of_period_one one⟩

/-- A program that sets the delay timer to five and then jumps in place. -/
def countdownRom : Rom where
  bytes := [0x60, 0x05, 0xF0, 0x15, 0x12, 0x04]
  fits := by decide

/-- A session that counts its timers down in every third cycle. -/
def countdown : Session :=
  powerOn countdownRom 3 (by decide) (.ofStream fun _ => 0) false

/-- A run that is stopped at once, one that goes on for a cycle, a tick by hand and a single step. -/
def haltingStretch : List Operation :=
  [.debugger (.addBreakpoint 0x204), .run 5 false, .run 4 false, .machine .tick, .step]

/-- After four cycles the timer stands at four. Two more cycles, however they come about, complete a
period, so that it stands at two after them and a tick by hand. -/
theorem timers_follow_cycles_through_halts :
    let session := countdown.operateAll [.run 4 false]
    let finish := session.operateAll haltingStretch
    session.cycles = 4 ∧ session.sinceTick = 1 ∧ finish.cycles = 6 ∧
      (Timer.delay.read session.machine).toNat = 4 ∧
      (Timer.delay.read finish.machine).toNat = 2 := by
  intro session finish
  have started : start { cyclesPerTick := 3 } (.ofStream fun _ => 0) (.ok countdownRom.bytes) =
      .ok countdown := rfl
  obtain ⟨period, before, later, shown⟩ : session.cyclesPerTick = 3 ∧ session.cycles = 4 ∧
      finish.cycles = 6 ∧ (Timer.delay.read session.machine).toNat = 4 := by decide +kernel
  obtain ⟨⟨-, rest, -, -⟩, stretches, -, -⟩ := timers_follow_cycles started [.run 4 false]
  obtain ⟨-, -, -, timers⟩ := stretches haltingStretch (by decide)
  have counted : (Timer.delay.read finish.machine).toNat =
      (Timer.delay.read session.machine).toNat -
        (finish.cycles / session.cyclesPerTick - session.cycles / session.cyclesPerTick) -
          haltingStretch.countP (·.isTick) :=
    timers .delay (by simp [haltingStretch, Timer.isSetByHost]) (by decide +kernel)
  have left : session.sinceTick = session.cycles % session.cyclesPerTick := rest
  rw [before, later, shown, period] at counted
  rw [before, period] at left
  exact ⟨before, left, later, shown, counted⟩

end Session

end Chip8
