import Chip8.Proofs.Execution
import Chip8.Proofs.SessionMoves

/-!
# How sessions run

Equations for the cycles and runs of a session, by what the debugger says. While an instruction
waits for a key the debugger is not asked, so a cycle polls the keypad and nothing else
(`cycle_of_isWaiting`). Otherwise the debugger is asked about the instruction that was fetched
(`cycle_of_upcoming`). A run is one cycle after the other (`runCycles_succ`).
-/

namespace Chip8

/-! ## Answers of the debugger -/

namespace Debugger

variable {debugger after : Debugger} {pc : Int}

/-- Who is let pass leaves no report. -/
lemma eq_of_admitted (answered : debugger.check pc = (true, after)) :
    after = debugger.clearResume := by
  unfold check at answered
  split at answered
  · cases answered
  · split at answered
    · exact (Prod.mk.inj answered).2.symm
    · split at answered
      · exact (Prod.mk.inj answered).2.symm
      · cases answered

/-- Who is stopped is told why. -/
lemma lastStop_of_refused (answered : debugger.check pc = (false, after)) :
    after.lastStop = some (interruptAt pc) ∨ after.lastStop = some (breakpointAt pc) := by
  unfold check at answered
  split at answered
  · left
    rw [← (Prod.mk.inj answered).2]
  · split at answered
    · cases answered
    · split at answered
      · cases answered
      · right
        rw [← (Prod.mk.inj answered).2]

end Debugger

namespace Session

variable {session : Session} {word : UInt16}

/-! ## Cycles -/

/-- The debugger is only asked about an instruction that was fetched. -/
lemma cycle_of_no_upcoming (upcoming : session.machine.upcoming? = none) :
    session.cycle =
      match session.machine.step with
      | .ok () machine => .ok true (completeCycle { session with machine })
      | .error fault machine => .error fault { session with machine } := by
  have unasked : session.machine.ask gate session.debugger = (true, session.debugger) := by
    unfold Machine.ask
    rw [upcoming]
  have cycled := cycle_eq session
  rw [unasked] at cycled
  cases stepped : session.machine.step <;> rw [stepped] at cycled <;> exact cycled

/-- Polling the keypad. -/
lemma cycle_of_isWaiting (waits : session.machine.isWaiting = true) {polled : Machine}
    (stepped : session.machine.step = .ok () polled) :
    session.cycle = .ok true (completeCycle { session with machine := polled }) := by
  rw [cycle_of_no_upcoming (Machine.upcoming?_of_isWaiting waits), stepped]

/-- The debugger is asked about every instruction that was fetched. -/
lemma cycle_of_upcoming (upcoming : session.machine.upcoming? = some word) :
    session.cycle =
      match session.debugger.check session.pc.toNat with
      | (false, debugger) => .ok false { session with debugger }
      | (true, debugger) =>
        match session.machine.step with
        | .ok () machine => .ok true (completeCycle { session with machine, debugger })
        | .error fault machine => .error fault { session with machine, debugger } := by
  have asked : session.machine.ask gate session.debugger =
      session.debugger.check session.pc.toNat := by
    unfold Machine.ask
    rw [upcoming]
    rfl
  have cycled := cycle_eq session
  rw [asked] at cycled
  rcases checked : session.debugger.check session.pc.toNat with ⟨_ | _, debugger⟩
  · rw [checked] at cycled
    exact cycled
  · rw [checked] at cycled
    cases stepped : session.machine.step <;> rw [stepped] at cycled <;> exact cycled

/-- Only the debugger stops a cycle, and then nothing else happens. -/
lemma check_of_stop {stopped : Session} (cycled : session.cycle = .ok false stopped) :
    (∃ word, session.machine.upcoming? = some word) ∧
      session.debugger.check session.pc.toNat = (false, stopped.debugger) ∧
      stopped = { session with debugger := stopped.debugger } := by
  cases upcoming : session.machine.upcoming? with
  | none =>
    rw [cycle_of_no_upcoming upcoming] at cycled
    cases stepped : session.machine.step <;> rw [stepped] at cycled <;> cases cycled
  | some word =>
    rw [cycle_of_upcoming upcoming] at cycled
    rcases checked : session.debugger.check session.pc.toNat with ⟨_ | _, debugger⟩
    · rw [checked] at cycled
      cases cycled
      exact ⟨⟨word, rfl⟩, rfl, rfl⟩
    · rw [checked] at cycled
      cases stepped : session.machine.step <;> simp [stepped] at cycled

/-- A cycle that completes is a step that the debugger lets pass, or is not asked about. -/
lemma step_of_completed {after : Session} (cycled : session.cycle = .ok true after) :
    ∃ machine debugger, session.machine.step = .ok () machine ∧
      (debugger = session.debugger ∨ debugger = session.debugger.clearResume) ∧
      after = completeCycle { session with machine, debugger } := by
  cases upcoming : session.machine.upcoming? with
  | none =>
    rw [cycle_of_no_upcoming upcoming] at cycled
    cases stepped : session.machine.step with
    | error fault machine =>
      rw [stepped] at cycled
      cases cycled
    | ok answer machine =>
      rw [stepped] at cycled
      cases cycled
      exact ⟨machine, session.debugger, rfl, .inl rfl, rfl⟩
  | some word =>
    rw [cycle_of_upcoming upcoming] at cycled
    rcases checked : session.debugger.check session.pc.toNat with ⟨_ | _, debugger⟩
    · rw [checked] at cycled
      cases cycled
    · rw [checked] at cycled
      cases stepped : session.machine.step with
      | error fault machine =>
        rw [stepped] at cycled
        cases cycled
      | ok answer machine =>
        rw [stepped] at cycled
        cases cycled
        exact ⟨machine, debugger, rfl, .inr (Debugger.eq_of_admitted checked), rfl⟩

/-! ## What counting a cycle keeps -/

lemma debugger_completeCycle (session : Session) :
    session.completeCycle.debugger = session.debugger := by
  unfold completeCycle
  split <;> rfl

lemma isWaiting_completeCycle (session : Session) :
    session.completeCycle.machine.isWaiting = session.machine.isWaiting := by
  unfold completeCycle
  split <;> rfl

lemma pc_completeCycle (session : Session) : session.completeCycle.pc = session.pc := by
  unfold completeCycle
  split <;> rfl

/-! ## Runs -/

/-- A run goes on while its cycles complete. -/
lemma runCycles_succ (untilKeyWait : Bool) (budget : Nat) (session : Session) :
    runCycles untilKeyWait (budget + 1) session =
      match session.cycle with
      | .ok true after =>
        if untilKeyWait && after.machine.isWaiting then .ok (some after.keyWaitEvent) after
        else runCycles untilKeyWait budget after
      | .ok false after => .ok after.debugger.lastStop after
      | .error fault after => .error fault after := by
  rw [runCycles, run_bind]
  cases session.cycle with
  | error fault after => rfl
  | ok completed after =>
    cases completed with
    | false => rfl
    | true =>
      simp only [↓reduceIte, run_bind, run_get]
      split <;> rfl

/-- What a run reports. -/
lemma run_eq (budget : Int) (untilKeyWait : Bool) (session : Session) :
    run budget untilKeyWait session =
      match runCycles untilKeyWait budget.toNat (session.mapDebugger .clearLastStop) with
      | .ok (some event) after => .ok event after
      | .ok none after => .ok (after.budgetEvent budget) after
      | .error fault after => .error fault after := by
  rw [run, run_bind, run_modify]
  dsimp only
  rw [run_bind]
  cases runCycles untilKeyWait budget.toNat (session.mapDebugger .clearLastStop) with
  | error fault after => rfl
  | ok event after => cases event <;> rfl

/-- The session that a run leaves is the one that its cycles leave. -/
lemma leaves_run (budget : Int) (untilKeyWait : Bool) (session : Session) :
    leaves (run budget untilKeyWait session) =
      leaves (runCycles untilKeyWait budget.toNat (session.mapDebugger .clearLastStop)) := by
  rw [run_eq]
  cases runCycles untilKeyWait budget.toNat (session.mapDebugger .clearLastStop) with
  | error fault after => rfl
  | ok event after => cases event <;> rfl

lemma perform_run_eq (budget : Int) (untilKeyWait : Bool) (session : Session) :
    perform (.run budget untilKeyWait) session = match run budget untilKeyWait session with
      | .ok event after => .ok (.event event) after
      | .error fault after => .error (.fault fault) after := by
  rw [perform, run_map, run_adaptExcept]
  cases run budget untilKeyWait session <;> rfl

end Session

end Chip8
