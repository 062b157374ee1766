import Chip8.Proofs.SessionRuns

/-!
# Stops that the host asks for

A run that is asked to stop does so before the next instruction, and nothing else happens
(`interrupted`). Only an instruction that waits for a key has already begun: it goes on to poll the
keypad, and the request stays until the instruction behind it is about to be executed.
-/

namespace Chip8

/-- Polling the keypad while no key is down does nothing. -/
lemma Machine.step_of_released {machine : Machine} (waits : machine.isWaiting = true)
    (released : machine.keypad.lowestDown? = none) : machine.step = .ok () machine := by
  rw [step_of_isWaiting waits, run_adaptExcept, run_pollKey, released]

/-- Polling the keypad while a key is down ends the wait, and the machine goes on behind it. -/
lemma Machine.step_of_pressed {machine : Machine} (waits : machine.isWaiting = true) {key : Key}
    (pressed : machine.keypad.lowestDown? = some key) :
    ∃ awake, machine.step = .ok () awake ∧ awake.isWaiting = false ∧
      awake.processor.pc = machine.processor.pc + 2 := by
  rw [step_of_isWaiting waits, run_adaptExcept, run_pollKey, pressed]
  exact ⟨_, rfl, rfl, rfl⟩

namespace Session

variable {session : Session} {untilKeyWait : Bool}

/-- The session when the debugger has stopped it because it was asked to. The request has been met
and reported; everything else is as it was. -/
def interrupted (session : Session) : Session :=
  { session with
    debugger := { session.debugger with
      stopRequested := false
      lastStop := some (Debugger.interruptAt session.pc.toNat) } }

/-! ## Before an instruction -/

section
variable (running : session.machine.isWaiting = false) (readable : session.pc.toNat ≤ 4094)
  (requested : session.debugger.stopRequested = true)
include running readable requested

/-- The debugger meets a request before anything else. -/
lemma cycle_of_stopRequested : session.cycle = .ok false session.interrupted := by
  obtain ⟨word, fetched⟩ := Machine.fetch_ok_iff.2 readable
  have upcoming := Machine.upcoming?_eq_some_iff.2 ⟨running, fetched⟩
  have refused : session.debugger.check session.pc.toNat =
      (false, session.interrupted.debugger) := by
    unfold Debugger.check
    rw [if_pos requested]
    rfl
  rw [cycle_of_upcoming upcoming, refused]
  rfl

lemma runCycles_of_stopRequested {budget : Nat} (positive : 0 < budget) :
    runCycles untilKeyWait budget session =
      .ok (some (Debugger.interruptAt session.pc.toNat)) session.interrupted := by
  obtain ⟨rest, rfl⟩ := Nat.exists_eq_add_of_lt positive
  rw [Nat.zero_add, runCycles_succ, cycle_of_stopRequested running readable requested]
  rfl

end

/-! ## While an instruction waits for a key -/

/-- A run only counts cycles while no key is down. -/
lemma runCycles_of_released (waits : session.machine.isWaiting = true)
    (released : session.machine.keypad.lowestDown? = none) (budget : Nat) :
    runCycles false budget session = .ok none (completeCycle^[budget] session) := by
  -- On the budget: counting a cycle neither ends the wait nor presses a key.
  induction budget generalizing session with
  | zero => rfl
  | succ budget ih =>
    have polled : session.cycle = .ok true session.completeCycle :=
      cycle_of_isWaiting waits (Machine.step_of_released waits released)
    have waits' : session.completeCycle.machine.isWaiting = true := by
      rw [isWaiting_completeCycle, waits]
    have released' : session.completeCycle.machine.keypad.lowestDown? = none := by
      rw [completeCycle_keypad, released]
    rw [runCycles_succ, polled, Function.iterate_succ_apply]
    exact ih waits' released'

lemma debugger_iterate_completeCycle (count : Nat) (session : Session) :
    (completeCycle^[count] session).debugger = session.debugger := by
  induction count generalizing session with
  | zero => rfl
  | succ count ih => rw [Function.iterate_succ_apply, ih, debugger_completeCycle]

lemma cycles_iterate_completeCycle (count : Nat) (session : Session) :
    (completeCycle^[count] session).cycles = session.cycles + count := by
  induction count generalizing session with
  | zero => rfl
  | succ count ih =>
    rw [Function.iterate_succ_apply, ih, completeCycle_cycles]
    omega

/-- If the run is also to end when the program waits for a key, it ends after one poll. -/
lemma runCycles_true_of_released (waits : session.machine.isWaiting = true)
    (released : session.machine.keypad.lowestDown? = none) {budget : Nat} (positive : 0 < budget) :
    runCycles true budget session =
      .ok (some session.completeCycle.keyWaitEvent) session.completeCycle := by
  obtain ⟨rest, rfl⟩ := Nat.exists_eq_add_of_lt positive
  have polled : session.cycle = .ok true session.completeCycle :=
    cycle_of_isWaiting waits (Machine.step_of_released waits released)
  have waits' : session.completeCycle.machine.isWaiting = true := by
    rw [isWaiting_completeCycle, waits]
  rw [Nat.zero_add, runCycles_succ, polled]
  simp [waits']

/-- If a key is down, the wait ends with the next cycle, whether or not the last report is still
there. -/
lemma cycle_of_pressed (waits : session.machine.isWaiting = true) {key : Key}
    (pressed : session.machine.keypad.lowestDown? = some key) :
    ∃ awake, session.cycle = .ok true awake ∧
      (session.mapDebugger .clearLastStop).cycle = .ok true (awake.mapDebugger .clearLastStop) ∧
      awake.machine.isWaiting = false ∧ awake.cycles = session.cycles + 1 ∧
      awake.pc = session.pc + 2 ∧ awake.debugger = session.debugger := by
  obtain ⟨machine, stepped, running, behind⟩ := Machine.step_of_pressed waits pressed
  let polled : Session := { session with machine }
  have kept : polled.completeCycle.debugger = session.debugger := debugger_completeCycle polled
  have silent : completeCycle { session.mapDebugger .clearLastStop with machine } =
      polled.completeCycle.mapDebugger .clearLastStop := by
    refine (completeCycle_debugger polled session.debugger.clearLastStop).trans ?_
    rw [← kept]
    rfl
  have waits' : (session.mapDebugger .clearLastStop).machine.isWaiting = true := waits
  refine ⟨polled.completeCycle, cycle_of_isWaiting waits stepped, ?_,
    (isWaiting_completeCycle _).trans running, completeCycle_cycles _,
    (pc_completeCycle _).trans behind, kept⟩
  rw [cycle_of_isWaiting waits' stepped, silent]

/-- If the wait ends with the first cycle, the request is met after it. -/
lemma runCycles_of_awake {awake : Session} (cycled : session.cycle = .ok true awake)
    (running : awake.machine.isWaiting = false) (readable : awake.pc.toNat ≤ 4094)
    (requested : awake.debugger.stopRequested = true) {budget : Nat} (enough : 1 < budget) :
    runCycles untilKeyWait budget session =
      .ok (some (Debugger.interruptAt awake.pc.toNat)) awake.interrupted := by
  obtain ⟨rest, rfl⟩ := Nat.exists_eq_add_of_lt enough
  have stops : runCycles untilKeyWait (1 + rest) awake =
      .ok (some (Debugger.interruptAt awake.pc.toNat)) awake.interrupted :=
    runCycles_of_stopRequested running readable requested (by omega)
  rw [runCycles_succ, cycled]
  simpa [running] using stops

/-! ## The theorem -/

/-- A stop that the host has asked for ends a run before the first instruction, with nothing done
but the request met and reported. While an instruction waits for a key, the run polls the keypad as
if nobody had asked. The request stays as long as no key is down; if one is, the first cycle ends the
wait, and the request is met in front of the next instruction. -/
theorem stop_request_ends_run (session : Session) (budget : Int) (untilKeyWait : Bool)
    (requested : session.debugger.stopRequested = true) (positive : 1 ≤ budget) :
    (session.machine.isWaiting = false → session.pc.toNat ≤ 4094 →
      perform (.run budget untilKeyWait) session =
        .ok (.event (Debugger.interruptAt session.pc.toNat)) session.interrupted) ∧
    (session.machine.isWaiting = true → session.machine.keypad.lowestDown? = none →
      ∃ stalled, stalled = completeCycle^[if untilKeyWait then 1 else budget.toNat]
          (session.mapDebugger .clearLastStop) ∧
        perform (.run budget untilKeyWait) session = .ok (.event
          (if untilKeyWait then stalled.keyWaitEvent else stalled.budgetEvent budget)) stalled ∧
        stalled.cycles = session.cycles + (if untilKeyWait then 1 else budget.toNat) ∧
        stalled.debugger = session.debugger.clearLastStop) ∧
    ∀ key, session.machine.isWaiting = true → session.machine.keypad.lowestDown? = some key →
      2 ≤ budget → (session.pc + 2).toNat ≤ 4094 →
        ∃ awake, session.cycle = .ok true awake ∧ awake.machine.isWaiting = false ∧
          awake.cycles = session.cycles + 1 ∧ awake.pc = session.pc + 2 ∧
          perform (.run budget untilKeyWait) session =
            .ok (.event (Debugger.interruptAt awake.pc.toNat)) awake.interrupted := by
  let begun := session.mapDebugger .clearLastStop
  have requested' : begun.debugger.stopRequested = true := requested
  have positive' : 0 < budget.toNat := by omega
  refine ⟨fun running readable => ?_, fun waits released => ?_,
    fun key waits pressed enough readable => ?_⟩
  · have running' : begun.machine.isWaiting = false := running
    have stops : runCycles untilKeyWait budget.toNat begun =
        .ok (some (Debugger.interruptAt session.pc.toNat)) session.interrupted :=
      runCycles_of_stopRequested running' readable requested' positive'
    rw [perform_run_eq, run_eq, stops]
  · have waits' : begun.machine.isWaiting = true := waits
    have released' : begun.machine.keypad.lowestDown? = none := released
    refine ⟨_, rfl, ?_, cycles_iterate_completeCycle _ begun,
      debugger_iterate_completeCycle _ begun⟩
    rw [perform_run_eq, run_eq]
    cases untilKeyWait with
    | false =>
      rw [runCycles_of_released waits' released']
      rfl
    | true =>
      rw [runCycles_true_of_released waits' released' positive']
      rfl
  · obtain ⟨awake, cycled, begins, running, counted, behind, kept⟩ := cycle_of_pressed waits pressed
    have stops : runCycles untilKeyWait budget.toNat begun =
        .ok (some (Debugger.interruptAt awake.pc.toNat)) awake.interrupted := by
      refine runCycles_of_awake begins running ?_ ?_ (by omega)
      · show awake.pc.toNat ≤ 4094
        rwa [behind]
      · show awake.debugger.stopRequested = true
        rwa [kept]
    refine ⟨awake, cycled, running, counted, behind, ?_⟩
    rw [perform_run_eq, run_eq, stops]

/-- A session with a program that waits for a key at once. -/
def listening : Session where
  rom := { bytes := [0xF0, 0x0A], fits := by decide }
  cyclesPerTick := 1
  cyclesPerTick_pos := Nat.one_pos
  machine := .powerOn { bytes := [0xF0, 0x0A], fits := by decide } (.ofStream fun _ => 0) false
  debugger := .idle
  cycles := 0
  sinceTick := 0

lemma start_listening : start {} (.ofStream fun _ => 0) (.ok [0xF0, 0x0A]) = .ok listening := rfl

/-- After one cycle the program waits, and no key is down yet. -/
lemma afterAll_listening :
    let polling := listening.afterAll [.run 1 false, .requestStop]
    polling.debugger.stopRequested = true ∧ polling.pc = 0x200 ∧ polling.cycles = 1 ∧
      polling.machine.isWaiting = true ∧ polling.machine.keypad.lowestDown? = none := by
  decide +kernel

lemma afterAll_listening_press :
    let pressed := listening.afterAll [.run 1 false, .requestStop, .press (.code 7)]
    pressed.debugger.stopRequested = true ∧ pressed.pc = 0x200 ∧ pressed.cycles = 1 ∧
      pressed.machine.isWaiting = true ∧ pressed.machine.keypad.lowestDown? = some 7 := by
  decide +kernel

/-- Asked to stop before the instruction, the program stops there. Asked while it waits, it goes on
waiting for five cycles; and once a key is down, it stops behind the instruction. -/
theorem stop_request_ends_run_listening :
    perform (.run 5 false) (listening.after .requestStop) =
      .ok (.event (Debugger.interruptAt 0x200)) (listening.after .requestStop).interrupted ∧
    (∃ stalled, perform (.run 5 false) (listening.afterAll [.run 1 false, .requestStop]) =
        .ok (.event (stalled.budgetEvent 5)) stalled ∧
      stalled.cycles = 6 ∧ stalled.debugger.stopRequested = true) ∧
    ∃ awake : Session, awake.machine.isWaiting = false ∧ awake.cycles = 2 ∧
      perform (.run 5 false)
          (listening.afterAll [.run 1 false, .requestStop, .press (.code 7)]) =
        .ok (.event (Debugger.interruptAt 0x202)) awake.interrupted := by
  obtain ⟨requested, -, before, waits, released⟩ := afterAll_listening
  obtain ⟨requested', place, before', waits', pressed⟩ := afterAll_listening_press
  obtain ⟨stops, -, -⟩ := stop_request_ends_run (listening.after .requestStop) 5 false rfl
    (by decide)
  obtain ⟨-, stays, -⟩ := stop_request_ends_run _ 5 false requested (by decide)
  obtain ⟨-, -, wakes⟩ := stop_request_ends_run _ 5 false requested' (by decide)
  refine ⟨stops rfl (by decide), ?_, ?_⟩
  · obtain ⟨stalled, -, ran, counted, kept⟩ := stays waits released
    refine ⟨stalled, ran, ?_, ?_⟩
    · rw [counted, before]
      rfl
    · rw [kept]
      exact requested
  · obtain ⟨awake, -, running, counted, behind, ran⟩ := wakes 7 waits' pressed (by decide)
      (by rw [place]; decide)
    rw [before'] at counted
    rw [behind, place] at ran
    exact ⟨awake, running, counted, ran⟩

/-- Not every run stops at once when it is asked to: one in which the program waits for a key uses
all its cycles. -/
theorem stop_request_passes_key_wait :
    ¬∀ (settings : Settings) (random : RandomSource) (image : Except Error (List UInt8))
      (initial : Session) (commands : List Command) (budget : Int) (untilKeyWait : Bool),
      start settings random image = .ok initial →
      (initial.afterAll commands).debugger.stopRequested = true →
      (initial.afterAll commands).pc.toNat ≤ 4094 → 1 ≤ budget →
        ∃ after, perform (.run budget untilKeyWait) (initial.afterAll commands) =
            .ok (.event (Debugger.interruptAt (initial.afterAll commands).pc.toNat)) after ∧
          after.cycles = (initial.afterAll commands).cycles := by
  intro always
  obtain ⟨requested, place, before, -, -⟩ := afterAll_listening
  obtain ⟨after, ran, counted⟩ := always {} (.ofStream fun _ => 0) (.ok [0xF0, 0x0A]) listening
    [.run 1 false, .requestStop] 5 false start_listening requested (by rw [place]; decide)
    (by decide)
  have polled : (leaves (perform (.run 5 false)
      (listening.afterAll [.run 1 false, .requestStop]))).cycles = 6 := by decide +kernel
  rw [ran] at polled
  rw [before] at counted
  have both : after.cycles = 6 := polled
  omega

end Session

end Chip8
