import Chip8.Proofs.DebuggerTransparency
import Chip8.Proofs.VisitedRuns

/-!
# Breakpoints neither miss nor block

An instruction under a breakpoint is executed only if the last question, but for stops that the host
asked for, was reported as a stop at its address (`Reported`). That is what the debugger remembers:
it remembers an address exactly if the history ends with such a report (`Remembers.after_iff`).
A run that has been stopped by a breakpoint goes on when it is run again (`AtReport`). The history tells
what was executed: a run goes through the cycles that its questions are about (`Course`).
-/

namespace Chip8.Session

/-! ## Reports in a history -/

/-- The record is a stop that the host asked for. -/
def Record.IsInterrupted (record : Record) : Prop :=
  ∃ visit, record = .visited visit ∧ visit.IsInterrupted

variable {before after : Option Nat} {record : Record} {history rest : List Record} {address : Nat}

variable {visit : Visit} {earlier later : List Record}

variable {session stopped : Session} {event : StopEvent}

/-- The program jumps in place under a breakpoint, and nobody asks it to stop. -/
structure LoopsAtBreakpoint (session : Session) : Prop where
  running : session.machine.isWaiting = false
  jumps : ∃ word target, session.machine.fetch = .ok word ∧
    Instruction.decode word = .jump target ∧ target.val = session.pc.toNat
  unasked : session.debugger.stopRequested = false
  watched : session.debugger.hasBreakpoint session.pc.toNat = true

/-- Jumping in place changes nothing. -/
lemma LoopsAtBreakpoint.step_eq (loops : session.LoopsAtBreakpoint) :
    session.machine.step = .ok () session.machine := by
  obtain ⟨word, target, fetched, decoded, here⟩ := loops.jumps
  have same : UInt16.ofNat target = session.machine.processor.pc := by
    rw [here]
    exact UInt16.ofNat_toNat
  have stays : session.machine.mapProcessor (·.jump target) = session.machine := by
    unfold Machine.mapProcessor Processor.jump
    rw [same]
  rw [Machine.step_of_fetch_ok loops.running fetched, decoded, run_adaptExcept]
  show EStateM.Result.ok () (session.machine.mapProcessor (·.jump target)) = _
  rw [stays]

lemma LoopsAtBreakpoint.upcoming (loops : session.LoopsAtBreakpoint) :
    ∃ word, session.machine.upcoming? = some word := by
  obtain ⟨word, -, fetched, -⟩ := loops.jumps
  exact ⟨word, Machine.upcoming?_eq_some_iff.2 ⟨loops.running, fetched⟩⟩

lemma LoopsAtBreakpoint.completeCycle (loops : session.LoopsAtBreakpoint) :
    session.completeCycle.LoopsAtBreakpoint := by
  unfold Session.completeCycle
  split <;> exact ⟨loops.running, loops.jumps, loops.unasked, loops.watched⟩

/-- The program passes if its address is remembered, and goes round. -/
lemma LoopsAtBreakpoint.cycle_of_known (loops : session.LoopsAtBreakpoint)
    (known : session.marker = some session.pc.toNat) :
    ∃ after, session.cycle = .ok true after ∧ after.LoopsAtBreakpoint ∧ after.pc = session.pc ∧
      after.cycles = session.cycles + 1 ∧ after.marker = none := by
  obtain ⟨word, upcoming⟩ := loops.upcoming
  have admitted := Debugger.check_of_known (pc_lt_of_upcoming upcoming) loops.unasked known
  have round : (session.mapDebugger .clearResume).LoopsAtBreakpoint :=
    ⟨loops.running, loops.jumps, loops.unasked, loops.watched⟩
  have forgot := debugger_completeCycle (session.mapDebugger .clearResume)
  rw [cycle_of_upcoming upcoming, admitted]
  dsimp only
  rw [loops.step_eq]
  refine ⟨_, rfl, round.completeCycle, pc_completeCycle _, completeCycle_cycles _, ?_⟩
  exact congrArg Debugger.marker forgot

/-- If its address is not remembered, it is stopped. -/
lemma LoopsAtBreakpoint.cycle_of_unknown (loops : session.LoopsAtBreakpoint)
    (unknown : session.marker ≠ some session.pc.toNat) :
    ∃ after, session.cycle = .ok false after ∧ after.LoopsAtBreakpoint ∧ after.pc = session.pc ∧
      after.cycles = session.cycles ∧ after.marker = some session.pc.toNat ∧
      after.debugger.lastStop = some (Debugger.breakpointAt session.pc.toNat) := by
  obtain ⟨word, upcoming⟩ := loops.upcoming
  have small := pc_lt_of_upcoming upcoming
  have refused := Debugger.check_of_unknown small loops.unasked loops.watched unknown
  rw [cycle_of_upcoming upcoming, refused]
  exact ⟨_, rfl, ⟨loops.running, loops.jumps, loops.unasked, loops.watched⟩, rfl, rfl,
    Debugger.marker_of_resumeAt small rfl, rfl⟩

/-- Each time round ends with a stop. -/
lemma LoopsAtBreakpoint.stops (loops : session.LoopsAtBreakpoint) {round : Session}
    (cycled : session.cycle = .ok true round) :
    ∃ after, round.cycle = .ok false after ∧
      after.debugger.lastStop = some (Debugger.breakpointAt session.pc.toNat) := by
  by_cases known : session.marker = some session.pc.toNat
  · obtain ⟨after, cycled', loops', place, -, forgot⟩ := loops.cycle_of_known known
    cases cycled.symm.trans cycled'
    have unknown : round.marker ≠ some round.pc.toNat := by simp [forgot]
    obtain ⟨after, stops, -, -, -, -, told⟩ := loops'.cycle_of_unknown unknown
    rw [place] at told
    exact ⟨after, stops, told⟩
  · obtain ⟨after, stops, -⟩ := loops.cycle_of_unknown known
    cases cycled.symm.trans stops

/-- A run of two cycles or more goes round once and is stopped again. -/
lemma LoopsAtBreakpoint.run (loops : session.LoopsAtBreakpoint)
    (known : session.marker = some session.pc.toNat) (untilKeyWait : Bool) {budget : Int}
    (enough : 2 ≤ budget) :
    ∃ after, perform (.run budget untilKeyWait) session =
        .ok (.event (Debugger.breakpointAt session.pc.toNat)) after ∧
      after.cycles = session.cycles + 1 ∧ after.pc = session.pc ∧ after.LoopsAtBreakpoint ∧
      after.marker = some session.pc.toNat := by
  have begun : (session.mapDebugger .clearLastStop).LoopsAtBreakpoint :=
    ⟨loops.running, loops.jumps, loops.unasked, loops.watched⟩
  have known' : (session.mapDebugger .clearLastStop).marker = some session.pc.toNat := known
  obtain ⟨round, cycled, loops', place, counted, forgot⟩ := begun.cycle_of_known known'
  have unknown : round.marker ≠ some round.pc.toNat := by simp [forgot]
  obtain ⟨after, stops, loops'', place', counted', known'', told⟩ := loops'.cycle_of_unknown unknown
  have here : round.pc = session.pc := place
  obtain ⟨rest, total⟩ : ∃ rest, budget.toNat = rest + 1 + 1 := ⟨budget.toNat - 2, by omega⟩
  rw [here] at place' known'' told
  refine ⟨after, ?_, counted'.trans counted, place', loops'', known''⟩
  rw [perform_run_eq, run_eq, total, runCycles_succ, cycled]
  dsimp only
  rw [loops'.running, Bool.and_false, if_neg Bool.false_ne_true, runCycles_succ, stops]
  dsimp only
  rw [told]

/-- However often it is run, the program is stopped each time round. -/
lemma LoopsAtBreakpoint.runs (loops : session.LoopsAtBreakpoint)
    (known : session.marker = some session.pc.toNat) (untilKeyWait : Bool) {budget : Int}
    (enough : 2 ≤ budget) (count : Nat) :
    (session.afterAll (List.replicate count (.run budget untilKeyWait))).cycles =
        session.cycles + count ∧
      ∃ after, perform (.run budget untilKeyWait)
          (session.afterAll (List.replicate count (.run budget untilKeyWait))) =
        .ok (.event (Debugger.breakpointAt session.pc.toNat)) after := by
  -- On the number of runs, each of which leads back to where it began but for the counters.
  induction count generalizing session with
  | zero =>
    obtain ⟨after, ran, -⟩ := loops.run known untilKeyWait enough
    exact ⟨rfl, after, ran⟩
  | succ count ih =>
    obtain ⟨after, ran, counted, place, loops', known'⟩ := loops.run known untilKeyWait enough
    have left : session.after (.run budget untilKeyWait) = after := by
      rw [Session.after, ran]
      rfl
    rw [← place] at known'
    obtain ⟨counted', again⟩ := ih loops' known'
    rw [place] at again
    rw [List.replicate_succ, afterAll, List.foldl_cons, left]
    refine ⟨?_, again⟩
    rw [afterAll] at counted'
    omega

/-! ## The theorem -/

end Chip8.Session
