import Chip8.Proofs.DebuggerTransparency
import Chip8.Proofs.VisitedRuns

/-!
# Runs can be split

A run of so many cycles is a run of some of them and then a run of the rest, if the first one uses
all that it was given; otherwise the rest is never begun (`runCycles_add`). The second run forgets
the last report once more before it starts, but then there is none to forget: a run that uses all
its cycles has not been stopped (`report_of_runCycles`).
-/

namespace Chip8

/-- Why and where a run stopped, without the words for it. -/
def StopEvent.occasion (event : StopEvent) : StopReason × Option Int :=
  (event.reason, event.address)

namespace Session

variable {session after : Session} {untilKeyWait : Bool} {event : StopEvent}

/-! ## Reports -/

/-- A cycle that completes reports nothing. -/
lemma lastStop_of_completed (cycled : session.cycle = .ok true after) :
    after.debugger.lastStop = session.debugger.lastStop := by
  obtain ⟨machine, debugger, -, answered, rfl⟩ := step_of_completed cycled
  rw [debugger_completeCycle]
  rcases answered with rfl | rfl <;> rfl

/-- A cycle that is stopped reports why, and never because of a budget. -/
lemma lastStop_of_stop (cycled : session.cycle = .ok false after) :
    ∃ event, after.debugger.lastStop = some event ∧ event.reason ≠ .budget := by
  obtain ⟨-, answered, -⟩ := check_of_stop cycled
  rcases Debugger.lastStop_of_refused answered with told | told
  · exact ⟨_, told, nofun⟩
  · exact ⟨_, told, nofun⟩

/-- Cycles that are all used up report nothing, and whatever cuts them short is not the budget. -/
lemma report_of_runCycles {budget : Nat} {cut : Option StopEvent}
    (ran : runCycles untilKeyWait budget session = .ok cut after) :
    (cut = none → after.debugger.lastStop = session.debugger.lastStop) ∧
      ∀ event, cut = some event → event.reason ≠ .budget := by
  have course := course_runCycles untilKeyWait budget session
  rw [ran] at course
  generalize Session.visits untilKeyWait budget session = visits at course
  cases course with
  | used completes =>
    exact ⟨fun _ => completes.keeps (·.debugger.lastStop) fun _ _ => lastStop_of_completed, nofun⟩
  | waiting asked within completes waits first =>
    refine ⟨nofun, ?_⟩
    rintro _ ⟨⟩
    exact nofun
  | stopped within completes refused asked told kept =>
    obtain ⟨stop, reported, reason⟩ := lastStop_of_stop refused
    cases reported.symm.trans kept
    refine ⟨nofun, ?_⟩
    rintro _ ⟨⟩
    exact reason

/-! ## Splitting -/

/-- Cycles are run one after the other, whoever counts them. -/
lemma runCycles_add (first second : Nat) (session : Session) :
    runCycles untilKeyWait (first + second) session =
      match runCycles untilKeyWait first session with
      | .ok none between => runCycles untilKeyWait second between
      | outcome => outcome := by
  -- On the first number: both sides begin with the same cycle.
  induction first generalizing session with
  | zero =>
    rw [Nat.zero_add]
    rfl
  | succ first ih =>
    rw [Nat.add_right_comm, runCycles_succ, runCycles_succ]
    cases cycled : session.cycle with
    | error fault between => rfl
    | ok completed between =>
      cases completed with
      | false =>
        obtain ⟨event, told, -⟩ := lastStop_of_stop cycled
        dsimp only
        rw [told]
      | true =>
        dsimp only
        split
        · rfl
        · exact ih between

/-- Forgetting the last report changes nothing if there is none. -/
lemma clearLastStop_of_none (silent : session.debugger.lastStop = none) :
    session.mapDebugger .clearLastStop = session := by
  obtain ⟨rom, cyclesPerTick, positive, machine, ⟨breakpoints, stopRequested, resumeAt, lastStop⟩,
    cycles, sinceTick⟩ := session
  cases silent
  rfl

/-- A run whose report is its budget has gone through all its cycles. -/
lemma runCycles_of_budget {budget : Nat} (ran : run budget untilKeyWait session = .ok event after)
    (reason : event.reason = .budget) :
    runCycles untilKeyWait budget (session.mapDebugger .clearLastStop) = .ok none after := by
  rw [run_eq, Int.toNat_natCast] at ran
  cases cycled : runCycles untilKeyWait budget (session.mapDebugger .clearLastStop) with
  | error fault between =>
    rw [cycled] at ran
    cases ran
  | ok cut between =>
    rw [cycled] at ran
    cases cut with
    | none =>
      cases ran
      rfl
    | some stop =>
      cases ran
      exact absurd reason ((report_of_runCycles cycled).2 _ rfl)

/-- Two runs whose cycles do the same report alike, but for the words about their budgets. -/
lemma occasion_run_of_runCycles {other : Session} {budget budget' : Nat}
    (same : runCycles untilKeyWait budget (session.mapDebugger .clearLastStop) =
      runCycles untilKeyWait budget' (other.mapDebugger .clearLastStop)) :
    (StopEvent.occasion <$> run budget untilKeyWait) session =
      (StopEvent.occasion <$> run budget' untilKeyWait) other := by
  rw [run_map, run_map, run_eq, run_eq, Int.toNat_natCast, Int.toNat_natCast, same]
  cases runCycles untilKeyWait budget' (other.mapDebugger .clearLastStop) with
  | error fault between => rfl
  | ok cut between => cases cut <;> rfl

/-- A run that does not use all its cycles would do nothing else with more of them. -/
lemma run_add_of_cut {first : Nat} (second : Nat)
    (cut : ∀ between,
      runCycles untilKeyWait first (session.mapDebugger .clearLastStop) ≠ .ok none between) :
    run (first + second : Nat) untilKeyWait session = run first untilKeyWait session := by
  rw [run_eq, run_eq, Int.toNat_natCast, Int.toNat_natCast, runCycles_add]
  cases cycled : runCycles untilKeyWait first (session.mapDebugger .clearLastStop) with
  | error fault after => rfl
  | ok event after =>
    cases event with
    | none => exact absurd cycled (cut after)
    | some stop => rfl

/-- Splitting a run changes nothing. If a run of `first` cycles ends because they are used up, a run
of `second` cycles after it leaves the session, or ends with the fault, of one run of both, and
reports the same reason and address. If it ends in any other way, the run of both ends in this
way too, with the same report and in the same session. -/
theorem runs_can_be_split (session : Session) (untilKeyWait : Bool) (first second : Nat) :
    (∀ event between, run first untilKeyWait session = .ok event between →
      (event.reason = .budget →
        (StopEvent.occasion <$> run second untilKeyWait) between =
          (StopEvent.occasion <$> run (first + second : Nat) untilKeyWait) session) ∧
      (event.reason ≠ .budget →
        run (first + second : Nat) untilKeyWait session = .ok event between)) ∧
    ∀ fault between, run first untilKeyWait session = .error fault between →
      run (first + second : Nat) untilKeyWait session = .error fault between := by
  refine ⟨fun event between ran => ⟨fun reason => ?_, fun reason => ?_⟩, fun fault between ran => ?_⟩
  · have used := runCycles_of_budget ran reason
    have silent : between.debugger.lastStop = none := (report_of_runCycles used).1 rfl
    apply occasion_run_of_runCycles
    rw [runCycles_add, used, clearLastStop_of_none silent]
  · rw [run_add_of_cut second fun other used => ?_]
    · exact ran
    · rw [run_eq, Int.toNat_natCast, used] at ran
      cases ran
      exact reason rfl
  · rw [run_add_of_cut second fun other used => ?_]
    · exact ran
    · rw [run_eq, Int.toNat_natCast, used] at ran
      cases ran

/-- What a run reports, unless it faults. -/
def report? : EStateM.Result Fault Session StopEvent → Option StopEvent
  | .ok event _ => some event
  | .error _ _ => none

lemma eq_of_report? {outcome : EStateM.Result Fault Session StopEvent}
    (told : report? outcome = some event) : outcome = .ok event (leaves outcome) := by
  cases outcome <;> cases told
  rfl

/-- The program stands at the breakpoint after two cycles. Whether it runs into it in the third
cycle of one run or in the first one of the next, it is stopped there. -/
theorem runs_can_be_split_at_breakpoint :
    let session := counting.after (.addBreakpoint 0x204)
    let between := leaves (run (2 : Nat) false session)
    run (2 : Nat) false session = .ok (between.budgetEvent 2) between ∧
    (StopEvent.occasion <$> run (5 : Nat) false) between =
      (StopEvent.occasion <$> run (2 + 5 : Nat) false) session ∧
    ∃ stopped, run (3 : Nat) false session = .ok (Debugger.breakpointAt 0x204) stopped ∧
      run (3 + 5 : Nat) false session = .ok (Debugger.breakpointAt 0x204) stopped := by
  intro session between
  have used : run (2 : Nat) false session = .ok (between.budgetEvent 2) between :=
    eq_of_report? (by decide +kernel)
  have stopped : run (3 : Nat) false session =
      .ok (Debugger.breakpointAt 0x204) (leaves (run (3 : Nat) false session)) :=
    eq_of_report? (by decide +kernel)
  obtain ⟨continued, -⟩ := runs_can_be_split session false 2 5
  obtain ⟨ended, -⟩ := runs_can_be_split session false 3 5
  exact ⟨used, (continued _ _ used).1 rfl, _, stopped, (ended _ _ stopped).2 (by decide)⟩

end Session

end Chip8
