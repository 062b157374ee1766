import Chip8.Proofs.BreakpointChecks

/-!
# What a run executes

A run goes through a number of cycles that all complete, and it ends in one of four ways (`Course`): it
had no more cycles, the program waits for a key, the debugger stopped the next cycle, or that faulted.
The questions in its history are those of these cycles: an instruction that passed was executed, and the
first that was stopped is the last of the run.
-/

namespace Chip8.Session

variable {session next : Session} {untilKeyWait : Bool} {budget count : Nat}
  {visits : List Visit} {result : EStateM.Result Fault Session (Option StopEvent)}

/-! ## Cycles in a row -/

/-- The session after a number of cycles. -/
def afterCycles (count : Nat) (session : Session) : Session :=
  (fun session : Session => leaves session.cycle)^[count] session

/-- A number of cycles complete, one after the other. -/
def Completes (count : Nat) (session : Session) : Prop :=
  ∀ earlier < count,
    (session.afterCycles earlier).cycle = .ok true (session.afterCycles (earlier + 1))

lemma afterCycles_succ (cycled : session.cycle = .ok true next) (count : Nat) :
    session.afterCycles (count + 1) = next.afterCycles count := by
  unfold afterCycles
  rw [Function.iterate_succ_apply, cycled]
  rfl

lemma Completes.cons (cycled : session.cycle = .ok true next) (completes : next.Completes count) :
    session.Completes (count + 1) := by
  intro earlier within
  cases earlier with
  | zero =>
    rw [afterCycles_succ cycled]
    exact cycled
  | succ earlier =>
    rw [afterCycles_succ cycled, afterCycles_succ cycled]
    exact completes earlier (Nat.lt_of_succ_lt_succ within)

/-- What cycles that complete keep, if each of them does. -/
lemma Completes.keeps {γ : Type} (part : Session → γ)
    (kept : ∀ session after : Session, session.cycle = .ok true after → part after = part session)
    (completes : session.Completes count) :
    part (session.afterCycles count) = part session := by
  induction count with
  | zero => rfl
  | succ count ih =>
    rw [kept _ _ (completes count count.lt_succ_self)]
    exact ih fun earlier within => completes earlier (Nat.lt_succ_of_lt within)

/-- The questions in a number of cycles. -/
def visitsBefore (count : Nat) (session : Session) : List Visit :=
  (List.range count).filterMap fun earlier => (session.afterCycles earlier).visit?

lemma visitsBefore_succ (cycled : session.cycle = .ok true next) (count : Nat) :
    session.visitsBefore (count + 1) = session.visit?.toList ++ next.visitsBefore count := by
  have first : session.afterCycles 0 = session := rfl
  unfold visitsBefore
  rw [List.range_succ_eq_map, List.filterMap_cons, List.filterMap_map, first]
  simp only [Function.comp_def, afterCycles_succ cycled]
  cases session.visit? <;> rfl

/-- A stop is the answer to a question. -/
lemma visit_of_stop {stopped : Session} (cycled : session.cycle = .ok false stopped) :
    ∃ visit event, session.visit? = some visit ∧ visit.stop = some event ∧
      stopped.debugger.lastStop = some event := by
  obtain ⟨⟨word, upcoming⟩, answered, -⟩ := check_of_stop cycled
  obtain ⟨event, told⟩ : ∃ event, stopped.debugger.lastStop = some event := by
    rcases Debugger.lastStop_of_refused answered with told | told <;> exact ⟨_, told⟩
  unfold visit?
  rw [cycled, upcoming]
  exact ⟨_, event, rfl, told, told⟩

/-- The ways in which up to `budget` cycles end: the questions that are asked, and the result. -/
inductive Course (untilKeyWait : Bool) (budget : Nat) (session : Session) :
    List Visit → EStateM.Result Fault Session (Option StopEvent) → Prop
  /-- All of them have completed. -/
  | used (completes : session.Completes budget) :
    Course untilKeyWait budget session (session.visitsBefore budget)
      (.ok none (session.afterCycles budget))
  /-- The program waits for a key, and has not done so after any of the cycles before. -/
  | waiting {last : Nat} (asked : untilKeyWait = true) (within : last < budget)
    (completes : session.Completes (last + 1))
    (waits : (session.afterCycles (last + 1)).machine.isWaiting = true)
    (first : ∀ earlier < last, (session.afterCycles (earlier + 1)).machine.isWaiting = false) :
    Course untilKeyWait budget session (session.visitsBefore (last + 1))
      (.ok (some (session.afterCycles (last + 1)).keyWaitEvent) (session.afterCycles (last + 1)))
  /-- The debugger has stopped a cycle. -/
  | stopped {count : Nat} {visit : Visit} {event : StopEvent} {after : Session}
    (within : count < budget) (completes : session.Completes count)
    (refused : (session.afterCycles count).cycle = .ok false after)
    (asked : (session.afterCycles count).visit? = some visit) (told : visit.stop = some event)
    (kept : after.debugger.lastStop = some event) :
    Course untilKeyWait budget session (session.visitsBefore count ++ [visit])
      (.ok (some event) after)
  /-- A cycle has faulted. -/
  | faulted {count : Nat} {fault : Fault} {after : Session} (within : count < budget)
    (completes : session.Completes count)
    (fails : (session.afterCycles count).cycle = .error fault after) :
    Course untilKeyWait budget session
      (session.visitsBefore count ++ (session.afterCycles count).visit?.toList)
      (.error fault after)

/-- A cycle before all others that does not end the run. -/
lemma Course.cons (cycled : session.cycle = .ok true next)
    (goesOn : (untilKeyWait && next.machine.isWaiting) = false)
    (course : next.Course untilKeyWait budget visits result) :
    session.Course untilKeyWait (budget + 1) (session.visit?.toList ++ visits) result := by
  cases course with
  | used completes =>
    rw [← afterCycles_succ cycled, ← visitsBefore_succ cycled]
    exact .used (completes.cons cycled)
  | @waiting last asked within completes waits first =>
    rw [← afterCycles_succ cycled] at waits ⊢
    rw [← visitsBefore_succ cycled]
    refine .waiting asked (Nat.succ_lt_succ within) (completes.cons cycled) waits ?_
    intro earlier before
    rw [afterCycles_succ cycled]
    cases earlier with
    | zero =>
      rw [asked, Bool.true_and] at goesOn
      exact goesOn
    | succ earlier => exact first earlier (Nat.lt_of_succ_lt_succ before)
  | stopped within completes refused asked told kept =>
    rw [← afterCycles_succ cycled] at refused asked
    rw [← List.append_assoc, ← visitsBefore_succ cycled]
    exact .stopped (Nat.succ_lt_succ within) (completes.cons cycled) refused asked told kept
  | faulted within completes fails =>
    rw [← afterCycles_succ cycled] at fails ⊢
    rw [← List.append_assoc, ← visitsBefore_succ cycled]
    exact .faulted (Nat.succ_lt_succ within) (completes.cons cycled) fails

/-- The questions in cycles are those that this tells of. -/
theorem course_runCycles (untilKeyWait : Bool) (budget : Nat) (session : Session) :
    session.Course untilKeyWait budget (session.visits untilKeyWait budget)
      (runCycles untilKeyWait budget session) := by
  -- On the budget, for all sessions at once: the rest of a run begins where its first cycle led.
  induction budget generalizing session with
  | zero => exact .used nofun
  | succ budget ih =>
    rw [Session.visits, runCycles_succ]
    cases cycled : session.cycle with
    | error fault after =>
      rw [List.append_nil]
      exact .faulted budget.succ_pos nofun cycled
    | ok completed after =>
      cases completed with
      | false =>
        obtain ⟨visit, event, asked, told, kept⟩ := visit_of_stop cycled
        rw [asked, List.append_nil]
        dsimp only
        rw [kept]
        exact .stopped budget.succ_pos nofun cycled asked told kept
      | true =>
        dsimp only
        split
        next ended =>
          obtain ⟨asked, waits⟩ := Bool.and_eq_true_iff.1 ended
          have here : session.afterCycles 1 = after := afterCycles_succ cycled 0
          have question : session.visit?.toList ++ [] = session.visitsBefore 1 :=
            (visitsBefore_succ cycled 0).symm
          rw [question, ← here]
          rw [← here] at waits
          exact .waiting asked budget.succ_pos (.cons cycled nofun) waits nofun
        next goesOn => exact .cons cycled (Bool.eq_false_iff.2 goesOn) (ih after)

end Chip8.Session
