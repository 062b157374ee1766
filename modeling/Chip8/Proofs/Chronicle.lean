import Chip8.Proofs.Raw.Operations
import Chip8.Proofs.SessionRuns

/-!
# The chronicle of a session

Whatever a host does with a session, its machine is only operated on: steps, ticks, keys that are
set, parts that are reset. The chronicle lists these operations, and the machine is the one that they
leave one after the other (`machine_operateAll`). What runs cycles also counts them: as many as there
are steps in its part of the chronicle, with a tick whenever a period is over (`Account`).
-/

namespace Chip8

/-! ## Operations on machines -/

deriving instance DecidableEq for Machine.Operation

namespace Machine

/-- Whether an operation is a step. -/
def Operation.isStep : Operation → Bool
  | .step => true
  | _ => false

/-- Whether an operation counts the timers down and does nothing else. -/
def Operation.isTick : Operation → Bool
  | .tick => true
  | _ => false

/-- Whether an operation is part of running cycles. -/
def Operation.isRunning : Operation → Bool
  | .step | .tick | .setKeys _ => true
  | _ => false

/-- The instruction that an operation executes, if it does. -/
def executed? (machine : Machine) : Operation → Option Instruction
  | .step | .cycle => match machine.step with
    | .ok () _ => machine.upcoming?.map Instruction.decode
    | .error _ _ => none
  | .execute word => match machine.execute (.ofInt word) with
    | .ok () _ => some (Instruction.decode (.ofInt word))
    | .error _ _ => none
  | _ => none

/-- The instructions that operations execute, the first one first. -/
def executedAll : Machine → List Operation → List Instruction
  | _, [] => []
  | machine, operation :: rest =>
    (machine.executed? operation).toList ++ executedAll (machine.operate operation) rest

lemma operateAll_append (machine : Machine) (earlier later : List Operation) :
    machine.operateAll (earlier ++ later) = (machine.operateAll earlier).operateAll later :=
  List.foldl_append

/-- Remembering leaves alone what does not depend on memory. -/
lemma part_remember {ε γ : Type} (part : Machine → γ)
    (apart : ∀ (machine : Machine) memory, part { machine with memory } = part machine)
    (machine : Machine) (contents : Except ε Memory) :
    part (machine.remember contents) = part machine := by
  obtain ⟨memory, same⟩ := machine.remember_eq contents
  rw [same, apart]

/-- Latching leaves alone what does not depend on the keypad. -/
lemma part_latch {ε γ : Type} (part : Machine → γ)
    (apart : ∀ (machine : Machine) keypad, part { machine with keypad } = part machine)
    (machine : Machine) (keys : Except ε Keypad) :
    part (machine.latch keys) = part machine := by
  obtain ⟨keypad, same⟩ := machine.latch_eq keys
  rw [same, apart]

/-- A step that faults does nothing. -/
lemma step_of_error {machine after : Machine} {fault : Fault}
    (stepped : machine.step = .error fault after) : after = machine :=
  (step_eq_error_iff.1 stepped).2

end Machine

namespace Session

variable {session between after : Session}

/-! ## Work -/

/-- Whether the timers are counted down with the next cycle that completes. -/
def isDue (session : Session) : Bool := session.cyclesPerTick ≤ session.sinceTick + 1

/-- What a cycle that completes does to the machine. -/
def cycleWork (session : Session) : List Machine.Operation :=
  if session.isDue then [.step, .tick] else [.step]

/-- What up to a number of cycles do to the machine. -/
def runWork (untilKeyWait : Bool) : Nat → Session → List Machine.Operation
  | 0, _ => []
  | budget + 1, session => match session.cycle with
    | .ok true after => session.cycleWork ++
      if untilKeyWait && after.machine.isWaiting then [] else runWork untilKeyWait budget after
    | _ => []

/-- What an operation on a session does to the machine. -/
def work : Operation → Session → List Machine.Operation
  | .cycle keys, session => (keys.map .setKeys).toList ++ match session.keypadFor keys with
    | .ok keypad => runWork false 1 (session.withKeypad keypad)
    | .error _ => []
  | .step, session => match session.machine.step with
    | .ok () _ => session.cycleWork
    | .error _ _ => []
  | .run budget untilKeyWait, session =>
    runWork untilKeyWait budget.toNat (session.mapDebugger .clearLastStop)
  | .runUntil address budget, session =>
    runWork false budget.toNat
      ((session.mapDebugger (·.addBreakpoint address)).mapDebugger .clearLastStop)
  | .reset, session =>
    [.resetMemory, .loadRom session.rom.bytes, .clearScreen, .releaseAll, .resetProcessor]
  | .debugger _, _ => []
  | .machine operation, _ => [operation]
  | .stepGated, session =>
    if (session.machine.ask gate session.debugger).1 then [.step] else []
  | .cycleGated, session =>
    if (session.machine.ask gate session.debugger).1 then [.cycle] else []

/-- What operations on a session do to the machine one after the other. -/
def chronicle : Session → List Operation → List Machine.Operation
  | _, [] => []
  | session, operation :: rest =>
    work operation session ++ chronicle (session.operate operation) rest

lemma mem_chronicle {session : Session} {operations : List Operation}
    {entry : Machine.Operation} (member : entry ∈ chronicle session operations) :
    ∃ operation ∈ operations, ∃ between, entry ∈ work operation between := by
  induction operations generalizing session with
  | nil => cases member
  | cons operation rest ih =>
    rcases List.mem_append.1 member with first | later
    · exact ⟨operation, List.mem_cons_self, session, first⟩
    · obtain ⟨other, inside, found⟩ := ih later
      exact ⟨other, List.mem_cons_of_mem _ inside, found⟩

/-! ## Accounts of cycles -/

/-- A list of operations on the machine accounts for what has happened to a session that ran cycles:
to its machine and to its counters. -/
structure Account (session : Session) (work : List Machine.Operation) (after : Session) :
    Prop where
  running : ∀ operation ∈ work, operation.isRunning = true
  machine : after.machine = session.machine.operateAll work
  rom : after.rom = session.rom
  period : after.cyclesPerTick = session.cyclesPerTick
  cycles : after.cycles = session.cycles + work.countP (·.isStep)
  /-- Of the cycles since the last tick, all that make up a period have been turned into a tick. -/
  ticks : session.sinceTick < session.cyclesPerTick →
    after.sinceTick < session.cyclesPerTick ∧
      after.sinceTick + session.cyclesPerTick * work.countP (·.isTick) =
        session.sinceTick + work.countP (·.isStep)

/-- What only concerns the debugger takes no work. -/
lemma account_debugger (session : Session) (debugger : Debugger) :
    Account session [] { session with debugger } where
  running := nofun
  machine := rfl
  rom := rfl
  period := rfl
  cycles := rfl
  ticks small := ⟨small, rfl⟩

lemma Account.refl (session : Session) : Account session [] session :=
  account_debugger session session.debugger

/-- Accounts of what happened one after the other. -/
lemma Account.append {first rest : List Machine.Operation} (begun : Account session first between)
    (continued : Account between rest after) : Account session (first ++ rest) after where
  running operation member := by
    rcases List.mem_append.1 member with early | late
    · exact begun.running operation early
    · exact continued.running operation late
  machine := by rw [Machine.operateAll_append, continued.machine, begun.machine]
  rom := continued.rom.trans begun.rom
  period := continued.period.trans begun.period
  cycles := by
    rw [List.countP_append, continued.cycles, begun.cycles]
    omega
  ticks small := by
    obtain ⟨below, early⟩ := begun.ticks small
    have rest := continued.ticks
    rw [begun.period] at rest
    obtain ⟨below', late⟩ := rest below
    refine ⟨below', ?_⟩
    rw [List.countP_append, List.countP_append, Nat.mul_add]
    omega

/-- Steering the debugger before or after running cycles takes no work either. -/
lemma Account.mapDebugger {work : List Machine.Operation} (f : Debugger → Debugger)
    (account : Account session work after) : Account session work (after.mapDebugger f) := by
  have ended := account.append (account_debugger after (f after.debugger))
  rwa [List.append_nil] at ended

/-- A cycle that completes, whatever the debugger notes. -/
lemma account_completeCycle {machine : Machine} (debugger : Debugger)
    (stepped : session.machine.step = .ok () machine) :
    Account session session.cycleWork (completeCycle { session with machine, debugger }) := by
  have moved : leaves session.machine.step = machine := by rw [stepped]; rfl
  unfold cycleWork isDue completeCycle
  by_cases due : session.cyclesPerTick ≤ session.sinceTick + 1
  · rw [if_pos (decide_eq_true due)]
    dsimp only
    rw [if_pos due]
    exact {
      running := by simp [Machine.Operation.isRunning]
      machine := by rw [← moved]; rfl
      rom := rfl
      period := rfl
      cycles := rfl
      ticks := fun small => by
        -- The period is over, and not since earlier.
        have whole : session.cyclesPerTick = session.sinceTick + 1 := by omega
        refine ⟨session.cyclesPerTick_pos, ?_⟩
        simp [Machine.Operation.isStep, Machine.Operation.isTick, whole] }
  · rw [if_neg (by simpa using due)]
    dsimp only
    rw [if_neg due]
    exact {
      running := by simp [Machine.Operation.isRunning]
      machine := by rw [← moved]; rfl
      rom := rfl
      period := rfl
      cycles := rfl
      ticks := fun _ => ⟨Nat.lt_of_not_le due, rfl⟩ }

/-- A cycle that is stopped or faults only concerns the debugger. -/
lemma eq_of_not_completed
    (cycled : session.cycle = .ok false after ∨ ∃ fault, session.cycle = .error fault after) :
    after = { session with debugger := after.debugger } := by
  rcases cycled with stopped | ⟨fault, failed⟩
  · exact (check_of_stop stopped).2.2
  · rw [cycle_eq] at failed
    rcases asked : session.machine.ask gate session.debugger with ⟨_ | _, debugger⟩
    · rw [asked] at failed
      cases failed
    · rw [asked] at failed
      cases stepped : session.machine.step with
      | ok answer machine =>
        simp only [stepped] at failed
        cases failed
      | error trouble machine =>
        simp only [stepped] at failed
        cases failed
        rw [Machine.step_of_error stepped]

lemma account_of_completed (cycled : session.cycle = .ok true after) :
    Account session session.cycleWork after := by
  obtain ⟨machine, debugger, stepped, -, rfl⟩ := step_of_completed cycled
  exact account_completeCycle debugger stepped

/-- Accounts of up to a number of cycles. -/
lemma account_runCycles (untilKeyWait : Bool) (budget : Nat) (session : Session) :
    Account session (runWork untilKeyWait budget session)
      (leaves (runCycles untilKeyWait budget session)) := by
  -- On the budget, for all sessions at once: the rest of a run begins where its first cycle led.
  induction budget generalizing session with
  | zero => exact .refl session
  | succ budget ih =>
    rw [runWork, runCycles_succ]
    cases cycled : session.cycle with
    | error fault after =>
      dsimp only [leaves]
      rw [eq_of_not_completed (.inr ⟨fault, cycled⟩)]
      exact account_debugger session after.debugger
    | ok completed after =>
      cases completed with
      | false =>
        dsimp only [leaves]
        rw [eq_of_not_completed (.inl cycled)]
        exact account_debugger session after.debugger
      | true =>
        refine (account_of_completed cycled).append ?_
        dsimp only
        split
        · exact .refl after
        · exact ih after

/-- Accounts of a run. -/
lemma account_run (budget : Int) (untilKeyWait : Bool) (session : Session) :
    Account session (runWork untilKeyWait budget.toNat (session.mapDebugger .clearLastStop))
      (leaves (run budget untilKeyWait session)) := by
  rw [leaves_run]
  exact (account_debugger session session.debugger.clearLastStop).append
    (account_runCycles untilKeyWait budget.toNat (session.mapDebugger .clearLastStop))

/-- Setting keys counts nothing. -/
lemma account_setKeys (states : List Bool) (session : Session) :
    Account session [.setKeys states] (session.mapMachine (·.latch (Keypad.ofList states))) where
  running := by simp [Machine.Operation.isRunning]
  machine := rfl
  rom := rfl
  period := rfl
  cycles := rfl
  ticks small := ⟨small, rfl⟩

/-! ## Accounts of operations -/

/-- Whether an operation runs cycles that the session counts. -/
def Operation.isRun : Operation → Bool
  | .cycle _ | .step | .run _ _ | .runUntil _ _ => true
  | _ => false

lemma account_cycle (session : Session) :
    Account session (runWork false 1 session) (leaves session.cycle) := by
  have account := account_runCycles false 1 session
  rw [runCycles_succ] at account
  rcases cycled : session.cycle with ⟨_ | _, after⟩ | ⟨fault, after⟩ <;> rwa [cycled] at account

lemma account_cycleWith (keys : Option (List Bool)) (session : Session) :
    Account session (work (.cycle keys) session) (leaves (cycleWith keys session)) := by
  have set : Account session (keys.map .setKeys).toList
      (match session.keypadFor keys with
        | .ok keypad => session.withKeypad keypad
        | .error _ => session) := by
    cases keys with
    | none => exact .refl session
    | some states =>
      have account := account_setKeys states session
      rw [keypadFor]
      cases latched : Keypad.ofList states <;> rwa [latched] at account
  rw [cycleWith_eq, work]
  refine set.append ?_
  cases session.keypadFor keys with
  | error misuse => exact .refl session
  | ok keypad =>
    have account := account_cycle (session.withKeypad keypad)
    dsimp only
    cases cycled : (session.withKeypad keypad).cycle <;> rwa [cycled] at account

lemma account_step (session : Session) :
    Account session (work .step session) (leaves (step session)) := by
  rw [step, run_bind, cycleUnchecked_eq, work]
  cases stepped : session.machine.step with
  | ok answer machine =>
    exact (account_completeCycle session.debugger stepped).mapDebugger .clearResume
  | error fault machine =>
    rw [Machine.step_of_error stepped]
    exact .refl session

lemma account_runUntil (address budget : Int) (session : Session) :
    Account session (work (.runUntil address budget) session)
      (leaves (runUntil address budget session)) := by
  have ran := account_run budget false (session.mapDebugger (·.addBreakpoint address))
  have account := (account_debugger session _).append ran
  rw [runUntil, work]
  -- Afterwards the breakpoint is removed, or it stays.
  cases h : run budget false (session.mapDebugger (·.addBreakpoint address)) <;>
    rw [h] at account <;> dsimp only [leaves] <;> split
  · exact account
  · exact account.mapDebugger _
  · exact account
  · exact account.mapDebugger _

/-- Whatever runs cycles counts them. -/
lemma account_operate {operation : Operation} (runs : operation.isRun = true) (session : Session) :
    Account session (work operation session) (session.operate operation) := by
  cases operation
  case cycle keys => exact account_cycleWith keys session
  case step => exact account_step session
  case run budget untilKeyWait => exact account_run budget untilKeyWait session
  case runUntil address budget => exact account_runUntil address budget session
  all_goals cases runs

/-- What a session was set up with stays as it was. -/
lemma setup_operate (operation : Operation) (session : Session) :
    (session.operate operation).rom = session.rom ∧
      (session.operate operation).cyclesPerTick = session.cyclesPerTick := by
  cases operation
  case reset => exact ⟨rfl, rfl⟩
  case debugger operation => exact ⟨rfl, rfl⟩
  case machine operation => exact ⟨rfl, rfl⟩
  case stepGated => exact ⟨rfl, rfl⟩
  case cycleGated => exact ⟨rfl, rfl⟩
  all_goals exact ⟨(account_operate rfl session).rom, (account_operate rfl session).period⟩

lemma setup_operateAll (operations : List Operation) (session : Session) :
    (session.operateAll operations).rom = session.rom ∧
      (session.operateAll operations).cyclesPerTick = session.cyclesPerTick := by
  induction operations generalizing session with
  | nil => exact ⟨rfl, rfl⟩
  | cons operation rest ih =>
    obtain ⟨rom, period⟩ := setup_operate operation session
    obtain ⟨rom', period'⟩ := ih (session.operate operation)
    exact ⟨rom'.trans rom, period'.trans period⟩

/-! ## The chronicle is true -/

/-- Resetting the machine part by part brings it back to power-on. -/
lemma machine_reset (session : Session) :
    session.reset.machine = session.machine.operateAll (work .reset session) := by
  have loaded : Rom.ofBytes session.rom.bytes = .ok session.rom := dif_pos session.rom.fits
  simp only [work, Machine.operateAll, List.foldl_cons, List.foldl_nil, Machine.operate, loaded]
  rfl

lemma machine_operate (operation : Operation) (session : Session) :
    (session.operate operation).machine = session.machine.operateAll (work operation session) := by
  cases operation
  case reset => exact machine_reset session
  case debugger operation => rfl
  case machine operation => rfl
  case stepGated =>
    rw [operate, afterGated, Machine.machine_stepGated, work]
    split <;> rfl
  case cycleGated =>
    rw [operate, afterGated, Machine.machine_cycleGated, work]
    split <;> rfl
  all_goals exact (account_operate rfl session).machine

/-- Operations on a session do to its machine what the chronicle says. -/
theorem machine_operateAll (operations : List Operation) (session : Session) :
    (session.operateAll operations).machine =
      session.machine.operateAll (chronicle session operations) := by
  induction operations generalizing session with
  | nil => rfl
  | cons operation rest ih =>
    rw [chronicle, Machine.operateAll_append, ← machine_operate]
    exact ih (session.operate operation)

end Session

end Chip8
