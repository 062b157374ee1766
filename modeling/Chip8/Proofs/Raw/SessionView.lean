import Chip8.Proofs.Raw.Execution
import Chip8.Proofs.Raw.Session
import Chip8.Proofs.SessionMoves

/-!
# The raw session runs as the session does

The view of a session is the view of its machine together with the breakpoints as a set of integers.
The debugger answers alike on both, so cycles, steps and runs of the raw session are those of the
session.
-/

namespace Chip8

/-- The addresses as a set of integers. -/
def AddressSet.toRaw (set : AddressSet) : Finset Int :=
  (set.members.map fun address => (address.val : Int)).toFinset

/-- The session in plain numbers. -/
@[simps]
def Session.toRaw (session : Session) : Raw.Session where
  rom := session.rom.bytes
  cyclesPerTick := session.cyclesPerTick
  machine := session.machine.toRaw
  breakpoints := session.debugger.breakpoints.toRaw
  stopRequested := session.debugger.stopRequested
  resumeAt := session.debugger.resumeAt.map fun address => (address.val : Int)
  lastStop := session.debugger.lastStop
  cycles := session.cycles
  sinceTick := session.sinceTick

/-! ## Sets of addresses -/

namespace AddressSet

lemma mem_toRaw {set : AddressSet} {number : Int} :
    number ∈ set.toRaw ↔ ∃ address ∈ set.members, (address.val : Int) = number := by
  rw [toRaw, List.mem_toFinset, List.mem_map]

/-- The address that a number stands for, as a number. -/
lemma reduce_val (number : Int) : ((reduce number).val : Int) = number % 4096 := by
  unfold reduce
  dsimp only
  omega

lemma mem_toRaw_reduce {set : AddressSet} {number : Int} :
    number % 4096 ∈ set.toRaw ↔ set.contains (reduce number) := by
  rw [mem_toRaw, contains, List.contains_iff_mem]
  constructor
  · rintro ⟨address, mem, same⟩
    have : address = reduce number := Fin.ext (by have := reduce_val number; omega)
    rwa [← this]
  · exact fun mem => ⟨_, mem, reduce_val number⟩

lemma toRaw_insert (set : AddressSet) (number : Int) :
    (set.insert (reduce number)).toRaw = Insert.insert (number % 4096) set.toRaw := by
  ext other
  rw [Finset.mem_insert, mem_toRaw, mem_toRaw, ← reduce_val]
  simp only [insert, mem_place, or_and_right, exists_or, exists_eq_left]
  rw [eq_comm]

lemma toRaw_erase (set : AddressSet) (number : Int) :
    (set.erase (reduce number)).toRaw = set.toRaw.erase (number % 4096) := by
  ext other
  rw [Finset.mem_erase, mem_toRaw, mem_toRaw, ← reduce_val]
  simp only [erase, List.mem_filter, decide_eq_true_eq]
  constructor
  · rintro ⟨address, ⟨mem, different⟩, rfl⟩
    exact ⟨fun same => different (Fin.ext (by omega)), address, mem, rfl⟩
  · rintro ⟨different, address, mem, rfl⟩
    exact ⟨address, ⟨mem, fun same => different (by rw [same])⟩, rfl⟩

lemma find?_eq_some {set : AddressSet} {number : Int} {address : Fin 4096}
    (found : set.find? number = some address) : number ∈ set.toRaw ∧ (address.val : Int) = number := by
  have same := List.find?_some found
  have mem := List.mem_of_find?_eq_some found
  rw [decide_eq_true_eq] at same
  exact ⟨mem_toRaw.2 ⟨address, mem, same⟩, same⟩

lemma find?_eq_none {set : AddressSet} {number : Int} (absent : set.find? number = none) :
    number ∉ set.toRaw := by
  rw [find?, List.find?_eq_none] at absent
  rw [mem_toRaw]
  rintro ⟨address, mem, same⟩
  exact absent address mem (decide_eq_true same)

end AddressSet

namespace Raw.Session

variable {α β ε : Type}

/-! ## The debugger -/

/-- The raw debugger answers as the debugger does, and keeps the same records. -/
lemma run_check (pc : Int) (session : Chip8.Session) :
    check pc session.toRaw =
      .ok (session.debugger.check pc).1
        ({ session with debugger := (session.debugger.check pc).2 } : Chip8.Session).toRaw := by
  obtain ⟨rom, cyclesPerTick, positive, machine, ⟨breakpoints, stopRequested, resumeAt, lastStop⟩,
    cycles, sinceTick⟩ := session
  unfold check Debugger.check
  rw [run_bind, run_get]
  dsimp only
  rw [Session.toRaw_stopRequested, Session.toRaw_breakpoints, Session.toRaw_resumeAt]
  dsimp only
  cases stopRequested with
  | true => rfl
  | false =>
    rw [if_neg Bool.false_ne_true, if_neg Bool.false_ne_true]
    cases found : breakpoints.find? pc with
    | none =>
      rw [if_neg (AddressSet.find?_eq_none found)]
      rfl
    | some address =>
      obtain ⟨mem, same⟩ := AddressSet.find?_eq_some found
      -- The breakpoint that was found is the program counter, so it may stand for it.
      have resumes : (resumeAt.map fun address => (address.val : Int)) = some pc ↔
          resumeAt = some address := by
        rw [← same]
        cases resumeAt with
        | none => simp
        | some other => simp [Fin.ext_iff]
      rw [if_pos mem]
      dsimp only
      by_cases resumed : resumeAt = some address
      · rw [if_pos (resumes.2 resumed), if_pos resumed]
        rfl
      · rw [if_neg (resumes.not.2 resumed), if_neg resumed, ← same]
        rfl

/-! ## Cycles -/

/-- A raw program that mirrors another one on machines mirrors it on the machines of sessions. -/
lemma run_onMachine {raw : Raw.Program β} {program : EStateM ε Chip8.Machine α}
    {lift : ε → Chip8.Machine → Trouble} {answer : α → β}
    (mirrors : Mirrors Machine.toRaw lift answer raw program) (session : Chip8.Session) :
    onMachine raw session.toRaw =
      match program session.machine with
      | .ok a machine => .ok (answer a) ({ session with machine } : Chip8.Session).toRaw
      | .error e machine => .error (lift e machine) ({ session with machine } : Chip8.Session).toRaw := by
  unfold onMachine
  rw [Session.toRaw_machine, mirrors]
  cases program session.machine <;> rfl

lemma run_onMachine_fetch (session : Chip8.Session) :
    onMachine fetch session.toRaw =
      match session.machine.fetch with
      | .ok word => .ok word.toNat session.toRaw
      | .error fault => .error (.error (.fault fault)) session.toRaw := by
  unfold onMachine
  rw [Session.toRaw_machine, run_fetch]
  cases session.machine.fetch <;> rfl

/-- Executing a word that was read completes the step that read it. -/
lemma run_onMachine_executeAt {session : Chip8.Session} {word : UInt16}
    (runs : session.machine.isWaiting = false) (fetched : session.machine.fetch = .ok word)
    (debugger : Debugger) :
    onMachine (executeAt session.machine.processor.pc.toNat word.toNat)
        ({ session with debugger } : Chip8.Session).toRaw =
      match session.machine.step with
      | .ok () machine => .ok () ({ session with machine, debugger } : Chip8.Session).toRaw
      | .error fault machine =>
        .error (.error (.fault fault)) ({ session with machine, debugger } : Chip8.Session).toRaw := by
  unfold onMachine
  rw [Session.toRaw_machine, run_executeAt, Machine.step_of_fetch_ok runs fetched, run_adaptExcept]
  cases Machine.perform (.decode word) session.machine <;> rfl

lemma run_executeInstruction (asks : Bool) (session : Chip8.Session) :
    executeInstruction asks session.toRaw =
      match if asks then session.machine.ask Session.gate session.debugger
        else (true, session.debugger) with
      | (false, debugger) => .ok false ({ session with debugger } : Chip8.Session).toRaw
      | (true, debugger) =>
        match session.machine.step with
        | .ok () machine => .ok true ({ session with machine, debugger } : Chip8.Session).toRaw
        | .error fault machine =>
          .error (.error (.fault fault)) ({ session with machine, debugger } : Chip8.Session).toRaw := by
  unfold executeInstruction
  rw [run_bind, run_get]
  dsimp only
  rw [Session.toRaw_machine, Machine.toRaw_awaitsKey]
  -- Nobody is asked while the machine waits for a key, nor when there is no word to ask about.
  cases waits : session.machine.isWaiting with
  | true =>
    have unasked : session.machine.ask Session.gate session.debugger = (true, session.debugger) := by
      unfold Machine.ask
      rw [Machine.upcoming?_of_isWaiting waits]
    obtain ⟨_, after, total⟩ := Machine.total_pollKey session.machine
    have stepped := Machine.step_of_isWaiting waits
    rw [run_adaptExcept, total] at stepped
    rw [if_pos rfl, run_bind, run_onMachine (@mirrors_pollKey 0), total, unasked, ite_self, stepped]
    rfl
  | false =>
    rw [if_neg Bool.false_ne_true, run_bind, run_get]
    dsimp only
    rw [run_bind, run_onMachine_fetch]
    cases fetched : session.machine.fetch with
    | error fault =>
      have unasked :
          session.machine.ask Session.gate session.debugger = (true, session.debugger) := by
        unfold Machine.ask
        rw [Machine.upcoming?_of_fetch_error waits fetched]
      rw [unasked, ite_self, Machine.step_of_fetch_error waits fetched]
    | ok word =>
      have asked : session.machine.ask Session.gate session.debugger =
          session.debugger.check session.machine.processor.pc.toNat := by
        unfold Machine.ask
        rw [Machine.upcoming?_of_fetch_ok waits fetched]
        rfl
      dsimp only
      rw [asked, Session.toRaw_machine, Machine.toRaw_pc]
      cases asks with
      | false =>
        rw [if_neg Bool.false_ne_true, if_neg Bool.false_ne_true, run_bind, run_pure]
        dsimp only
        rw [if_pos rfl, run_bind, run_onMachine_executeAt waits fetched session.debugger]
        cases session.machine.step <;> rfl
      | true =>
        rw [if_pos rfl, if_pos rfl, run_bind, run_check]
        rcases session.debugger.check session.machine.processor.pc.toNat with ⟨_ | _, debugger⟩
        · rfl
        · dsimp only
          rw [if_pos rfl, run_bind, run_onMachine_executeAt waits fetched debugger]
          cases session.machine.step <;> rfl

lemma run_completeCycle (session : Chip8.Session) :
    completeCycle session.toRaw = .ok () session.completeCycle.toRaw := by
  unfold completeCycle Chip8.Session.completeCycle
  rw [run_bind, run_modify]
  dsimp only
  rw [run_bind, run_get]
  dsimp only
  rw [Session.toRaw_cyclesPerTick, Session.toRaw_sinceTick]
  by_cases due : session.cyclesPerTick ≤ session.sinceTick + 1
  · rw [if_pos (by omega), if_pos due, run_bind]
    show onMachine tick _ = _
    unfold onMachine
    dsimp only
    rw [Session.toRaw_machine, run_tick]
    rfl
  · rw [if_neg (by omega), if_neg due]
    rfl

/-- A cycle of the raw session is a cycle of the session. -/
theorem mirrors_cycle :
    Mirrors Session.toRaw (fun fault _ => .error (.fault fault)) id (cycle true)
      Chip8.Session.cycle := by
  intro session
  unfold cycle
  rw [run_bind, run_executeInstruction, if_pos rfl, Session.cycle_eq]
  rcases session.machine.ask Session.gate session.debugger with ⟨_ | _, debugger⟩
  · rfl
  · dsimp only
    cases session.machine.step with
    | error fault machine => rfl
    | ok answer machine =>
      dsimp only
      rw [if_pos rfl, run_bind, run_completeCycle]
      rfl

/-- A cycle that asks nobody. -/
lemma mirrors_cycleUnchecked :
    Mirrors Session.toRaw (fun fault _ => .error (.fault fault)) (fun _ => true) (cycle false)
      Chip8.Session.cycleUnchecked := by
  intro session
  unfold cycle
  rw [run_bind, run_executeInstruction, if_neg Bool.false_ne_true, Session.cycleUnchecked_eq]
  dsimp only
  cases session.machine.step with
  | error fault machine => rfl
  | ok answer machine =>
    dsimp only
    rw [if_pos rfl, run_bind, run_completeCycle]
    rfl

/-! ## Runs -/

lemma mirrors_step :
    Mirrors Session.toRaw (fun fault _ => .error (.fault fault)) id step Chip8.Session.step :=
  mirrors_cycleUnchecked.bind fun _ =>
    Mirrors.modify_bind (fun _ => rfl) (Mirrors.get_bind fun _ => .pure _ id)

lemma mirrors_runCycles (untilKeyWait : Bool) (budget : Nat) :
    Mirrors Session.toRaw (fun fault _ => .error (.fault fault)) id (runCycles untilKeyWait budget)
      (Chip8.Session.runCycles untilKeyWait budget) := by
  -- Both runs use up the budget cycle by cycle and look for a key wait at the same places.
  induction budget with
  | zero => exact .pure _ id
  | succ budget ih =>
    refine mirrors_cycle.bind fun completed => ?_
    cases completed with
    | false => exact Mirrors.get_bind fun session => .pure _ id
    | true =>
      refine Mirrors.get_bind fun session => ?_
      rw [Session.toRaw_machine, Machine.toRaw_awaitsKey]
      cases untilKeyWait && session.machine.isWaiting with
      | true => exact .pure _ id
      | false => exact ih

lemma mirrors_run (budget : Int) (untilKeyWait : Bool) :
    Mirrors Session.toRaw (fun fault _ => .error (.fault fault)) id (run budget untilKeyWait)
      (Chip8.Session.run budget untilKeyWait) := by
  refine Mirrors.modify_bind (fun _ => rfl) ?_
  refine (mirrors_runCycles untilKeyWait budget.toNat).bind fun event => ?_
  cases event with
  | some event => exact .pure _ id
  | none => exact Mirrors.get_bind fun session => .pure _ id

lemma toRaw_addBreakpoint (session : Chip8.Session) (number : Int) :
    (session.mapDebugger (·.addBreakpoint number)).toRaw = session.toRaw.addBreakpoint number := by
  unfold addBreakpoint
  rw [Session.toRaw_breakpoints, ← AddressSet.toRaw_insert]
  rfl

lemma toRaw_removeBreakpoint (session : Chip8.Session) (number : Int) :
    (session.mapDebugger (·.removeBreakpoint number)).toRaw =
      session.toRaw.removeBreakpoint number := by
  unfold removeBreakpoint
  rw [Session.toRaw_breakpoints, ← AddressSet.toRaw_erase]
  rfl

lemma hasBreakpoint_toRaw (session : Chip8.Session) (number : Int) :
    session.toRaw.hasBreakpoint number = session.debugger.hasBreakpoint number := by
  unfold hasBreakpoint Debugger.hasBreakpoint
  rw [Session.toRaw_breakpoints, Bool.eq_iff_iff, decide_eq_true_eq]
  exact AddressSet.mem_toRaw_reduce

/-- Setting a breakpoint that is set changes nothing. -/
lemma addBreakpoint_of_hasBreakpoint {session : Session} {number : Int}
    (wasSet : session.hasBreakpoint number) : session.addBreakpoint number = session := by
  unfold hasBreakpoint at wasSet
  unfold addBreakpoint
  rw [Finset.insert_eq_of_mem (of_decide_eq_true wasSet)]

lemma mirrors_runUntil (address budget : Int) :
    Mirrors Session.toRaw (fun fault _ => .error (.fault fault)) id (runUntil address budget)
      (Chip8.Session.runUntil address budget) := by
  intro session
  -- The raw session leaves a breakpoint that is set alone, the session sets it again.
  have prepared : (if session.debugger.hasBreakpoint address then session.toRaw
      else session.toRaw.addBreakpoint address) =
        (session.mapDebugger (·.addBreakpoint address)).toRaw := by
    rw [toRaw_addBreakpoint]
    split
    · next wasSet =>
      rw [← hasBreakpoint_toRaw] at wasSet
      exact (addBreakpoint_of_hasBreakpoint wasSet).symm
    · rfl
  have restored (wasSet : Bool) (after : Chip8.Session) :
      (if wasSet then after.toRaw else after.toRaw.removeBreakpoint address) =
        (if wasSet then after else after.mapDebugger (·.removeBreakpoint address)).toRaw := by
    cases wasSet with
    | true => rfl
    | false => exact (toRaw_removeBreakpoint after address).symm
  unfold runUntil Chip8.Session.runUntil
  dsimp only
  rw [hasBreakpoint_toRaw, prepared, mirrors_run budget false]
  cases Chip8.Session.run budget false (session.mapDebugger (·.addBreakpoint address)) with
  | ok event after =>
    dsimp only
    rw [restored]
    rfl
  | error fault after =>
    dsimp only
    rw [restored]

/-! ## Keys -/

lemma mirrors_setKeys (states : List Bool) :
    Mirrors Session.toRaw (fun error _ => .error error) id (onMachine (setKeys states))
      (Chip8.Session.setKeys states) := by
  intro session
  unfold Chip8.Session.setKeys
  unfold onMachine
  rw [Session.run_tryKeypad, Session.toRaw_machine, run_setKeys]
  cases Keypad.ofList states <;> rfl

/-- A fault as an error of a host. -/
lemma Mirrors.adaptExcept {raw : Program β} {program : EStateM Fault Chip8.Session α}
    {answer : α → β}
    (mirrors : Mirrors Session.toRaw (fun fault _ => .error (.fault fault)) answer raw program) :
    Mirrors Session.toRaw (fun error _ => .error error) answer raw (program.adaptExcept .fault) := by
  intro session
  rw [mirrors session, run_adaptExcept]
  cases program session <;> rfl

lemma mirrors_cycleWith (keys : Option (List Bool)) :
    Mirrors Session.toRaw (fun error _ => .error error) id (cycleWith keys)
      (Chip8.Session.cycleWith keys) := by
  cases keys with
  | none => exact Mirrors.adaptExcept mirrors_cycle
  | some states => exact (mirrors_setKeys states).bind fun _ => Mirrors.adaptExcept mirrors_cycle

end Raw.Session

end Chip8
