import Chip8.Proofs.RunSplitting
import Chip8.Proofs.StopRequests
import Chip8.Proofs.TimerCadence

/-!
# What a run reports

A run that does not fault has gone through a number of cycles that all completed, and it ended in
one of three ways (`Course`): it had no more cycles, the program waits for a key, or the debugger
stopped the next cycle. Its report is what this makes of it, whatever had been reported before.
-/

namespace Chip8.Session

variable {session after : Session} {count : Nat}

/-! ## Cycles in a row -/

lemma Completes.cycles (completes : session.Completes count) :
    (session.afterCycles count).cycles = session.cycles + count := by
  induction count with
  | zero => rfl
  | succ count ih =>
    rw [cycles_of_completed (completes count count.lt_succ_self),
      ih fun earlier within => completes earlier (Nat.lt_succ_of_lt within), Nat.add_assoc]

/-- A cycle that completes leaves breakpoints and requests as they are. -/
lemma settings_of_completed (cycled : session.cycle = .ok true after) :
    after.debugger.breakpoints = session.debugger.breakpoints ∧
      after.debugger.stopRequested = session.debugger.stopRequested := by
  obtain ⟨machine, debugger, -, answered, rfl⟩ := step_of_completed cycled
  rw [debugger_completeCycle]
  rcases answered with rfl | rfl <;> exact ⟨rfl, rfl⟩

/-! ## What stopped a cycle -/

/-- A cycle is stopped because a stop was asked for, which is then done with, or because there is a
breakpoint at the program counter. The debugger says so, and nothing else changes. -/
lemma stop_cases (refused : session.cycle = .ok false after) :
    (∃ word, session.machine.upcoming? = some word) ∧
      after = { session with debugger := after.debugger } ∧
      after.debugger.breakpoints = session.debugger.breakpoints ∧ session.pc.toNat < 4096 ∧
      ((session.debugger.stopRequested = true ∧ after.debugger.stopRequested = false ∧
          after.debugger.lastStop = some (Debugger.interruptAt session.pc.toNat)) ∨
        (session.debugger.hasBreakpoint session.pc.toNat = true ∧
          after.debugger.lastStop = some (Debugger.breakpointAt session.pc.toNat))) := by
  obtain ⟨⟨word, upcoming⟩, answered, same⟩ := check_of_stop refused
  have small := pc_lt_of_upcoming upcoming
  refine ⟨⟨word, upcoming⟩, same, ?_⟩
  rcases session.debugger.check_cases small with ⟨requested, told⟩ |
    ⟨-, ⟨-, told⟩ | ⟨-, -, told⟩ | ⟨watched, -, told⟩⟩
  · obtain ⟨-, noted⟩ := Prod.mk.inj (told.symm.trans answered)
    rw [← noted]
    exact ⟨rfl, small, .inl ⟨requested, rfl, rfl⟩⟩
  · cases told.symm.trans answered
  · cases told.symm.trans answered
  · obtain ⟨-, noted⟩ := Prod.mk.inj (told.symm.trans answered)
    rw [← noted]
    exact ⟨rfl, small, .inr ⟨watched, rfl⟩⟩

/-! ## The theorem -/

/-- What a run reports is true. The run has gone through a number of cycles, all of which completed,
and the report gives the address that it left the program counter at. If the reason is the budget,
there were as many cycles as it allows. If it is a breakpoint or a stop that was asked for, there
were fewer; the debugger stopped the cycle after them, so that the instruction at the program counter
has not been executed and nothing but the debugger has changed; there is a breakpoint at that
address, or a stop had been asked for; and the debugger keeps the report. If it is that the program
waits for a key, the run was to end for that, there was at least one cycle, and the program did not
wait after any but the last. No other reason is given, and unless the debugger stopped the run it
has no report, even if there had been one. -/
theorem run_report_is_true (session : Session) (budget : Int) (untilKeyWait : Bool)
    {event : StopEvent} {after : Session}
    (ran : run budget untilKeyWait session = .ok event after) :
    let begun := session.mapDebugger .clearLastStop
    event.address = some after.pc.toNat ∧
    ∃ count, begun.Completes count ∧ after.cycles = session.cycles + count ∧
      let stoppedBefore (last : Session) : Prop :=
        count < budget ∧ last.cycle = .ok false after ∧
          (∃ word, last.machine.upcoming? = some word) ∧
          after = { last with debugger := after.debugger } ∧
          after.debugger.breakpoints = session.debugger.breakpoints ∧
          after.debugger.lastStop = some event
      match event.reason with
      | .budget =>
        count = max budget 0 ∧ after = begun.afterCycles count ∧ after.debugger.lastStop = none
      | .breakpoint =>
        stoppedBefore (begun.afterCycles count) ∧ after.pc.toNat < 4096 ∧
          after.debugger.hasBreakpoint after.pc.toNat = true
      | .interrupt =>
        stoppedBefore (begun.afterCycles count) ∧ session.debugger.stopRequested = true ∧
          after.debugger.stopRequested = false
      | .keyWait =>
        untilKeyWait = true ∧ 1 ≤ count ∧ count ≤ budget ∧ after = begun.afterCycles count ∧
          after.machine.isWaiting = true ∧
          (∀ earlier, 1 ≤ earlier → earlier < count →
            (begun.afterCycles earlier).machine.isWaiting = false) ∧
          after.debugger.lastStop = none
      | .step | .unspecified => False := by
  intro begun
  have silent {count : Nat} (completes : begun.Completes count) :
      (begun.afterCycles count).debugger.lastStop = none :=
    completes.keeps (·.debugger.lastStop) fun _ _ => lastStop_of_completed
  rw [run_eq] at ran
  cases cycled : runCycles untilKeyWait budget.toNat begun with
  | error fault between =>
    rw [cycled] at ran
    cases ran
  | ok cut between =>
    have course := course_runCycles untilKeyWait budget.toNat begun
    rw [cycled] at ran course
    generalize Session.visits untilKeyWait budget.toNat begun = visits at course
    cases course with
    | used completes =>
      cases ran
      exact ⟨rfl, _, completes, completes.cycles, by omega, rfl, silent completes⟩
    | @waiting last asked within completes waits first =>
      cases ran
      refine ⟨rfl, _, completes, completes.cycles, asked, by omega, by omega, rfl, waits, ?_,
        silent completes⟩
      intro earlier positive before
      obtain ⟨earlier, rfl⟩ := Nat.exists_eq_add_of_le' positive
      exact first earlier (Nat.lt_of_succ_lt_succ before)
    | @stopped count _ _ _ within completes refused _ _ answer =>
      obtain ⟨upcoming, same, kept, small, told⟩ := stop_cases refused
      have breakpoints := completes.keeps (·.debugger.breakpoints)
        fun _ _ cycled => (settings_of_completed cycled).1
      have requests := completes.keeps (·.debugger.stopRequested)
        fun _ _ cycled => (settings_of_completed cycled).2
      have place : between.pc = (begun.afterCycles count).pc := (congrArg Session.pc same :)
      have counted : between.cycles = session.cycles + count :=
        (congrArg Session.cycles same).trans completes.cycles
      have fewer : count < budget := by omega
      rw [← place] at told small
      rw [← answer] at ran
      rcases told with ⟨requested, met, told⟩ | ⟨watched, told⟩
      · rw [told] at ran
        cases ran
        exact ⟨rfl, count, completes, counted,
          ⟨fewer, refused, upcoming, same, kept.trans breakpoints, told⟩,
          requests.symm.trans requested, met⟩
      · rw [told] at ran
        cases ran
        refine ⟨rfl, count, completes, counted,
          ⟨fewer, refused, upcoming, same, kept.trans breakpoints, told⟩, small, ?_⟩
        unfold Debugger.hasBreakpoint at watched ⊢
        rwa [kept]

/-- A run of five cycles stops at the breakpoint after two. The next one, of one cycle, has nothing
to say about it any more. A program that waits for a key with its first instruction ends the run for
that, even if it was to be no longer. -/
theorem run_report_is_true_counting :
    let watched := counting.after (.addBreakpoint 0x204)
    let stopped := leaves (run 5 false watched)
    let resumed := leaves (run 1 false stopped)
    let waiting := leaves (run 1 true listening)
    (run 5 false watched = .ok (Debugger.breakpointAt 0x204) stopped ∧
      stopped.cycles = 2 ∧ stopped.pc = 0x204 ∧
      stopped.debugger.hasBreakpoint stopped.pc.toNat = true ∧
      stopped.debugger.lastStop = some (Debugger.breakpointAt 0x204)) ∧
    (run 1 false stopped = .ok (resumed.budgetEvent 1) resumed ∧
      resumed.cycles = 3 ∧ resumed.debugger.lastStop = none) ∧
    run 1 true listening = .ok waiting.keyWaitEvent waiting ∧
      waiting.cycles = 1 ∧ waiting.machine.isWaiting = true := by
  intro watched stopped resumed waiting
  have first : run 5 false watched = .ok (Debugger.breakpointAt 0x204) stopped :=
    eq_of_report? (by decide +kernel)
  have second : run 1 false stopped = .ok (resumed.budgetEvent 1) resumed :=
    eq_of_report? (by decide +kernel)
  have third : run 1 true listening = .ok waiting.keyWaitEvent waiting :=
    eq_of_report? (by decide +kernel)
  obtain ⟨place, _, -, -, ⟨-, -, -, -, -, kept⟩, -, watches⟩ := run_report_is_true _ _ _ first
  obtain ⟨-, used, -, counted, all, -, silent⟩ := run_report_is_true _ _ _ second
  obtain ⟨-, last, -, polled, -, least, most, -, waits, -⟩ := run_report_is_true _ _ _ third
  have before : stopped.cycles = 2 := by decide +kernel
  have begun : listening.cycles = 0 := rfl
  have pc : stopped.pc = 0x204 := by decide +kernel
  exact ⟨⟨first, before, pc, watches, kept⟩, ⟨second, by omega, silent⟩, third, by omega, waits⟩

end Chip8.Session
