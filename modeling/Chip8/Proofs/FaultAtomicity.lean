import Chip8.Proofs.SessionMoves

/-!
# Faults change nothing

A step, a cycle or an instruction that faults leaves the machine as it found it, and the session
around it keeps its counters: only the keys that came with the cycle are taken over, and the debugger
has its records. So the fault waits: under a quiet debugger every further cycle ends with it again.
-/

namespace Chip8

namespace Machine

lemma execute_error {machine after : Machine} {word : UInt16} {fault : Fault}
    (failed : machine.execute word = .error fault after) : after = machine := by
  obtain ⟨cause, performed, _⟩ := adaptExcept_eq_error_iff.1 failed
  exact perform_error performed

lemma step_error {machine after : Machine} {fault : Fault}
    (failed : machine.step = .error fault after) : after = machine :=
  (step_eq_error_iff.1 failed).2

lemma cycle_error {machine after : Machine} {fault : Fault}
    (failed : machine.cycle = .error fault after) : after = machine := by
  unfold cycle at failed
  rcases bind_eq_error_iff.1 failed with stepped | ⟨_, between, _, ticked⟩
  · exact step_error stepped
  · cases ticked

/-! ### Under a gate -/

section
variable {σ : Type} {gate : Gate σ} {machine after : Machine} {records records' : σ} {fault : Fault}

lemma stepGated_error
    (failed : stepGated gate (machine, records) = .error fault (after, records')) :
    after = machine := by
  unfold stepGated at failed
  dsimp only at failed
  rcases asked : machine.ask gate records with ⟨_ | _, _⟩
  · rw [asked] at failed
    cases failed
  · rw [asked] at failed
    cases h : machine.step with
    | ok _ between =>
      rw [h] at failed
      cases failed
    | error fault' between =>
      rw [h] at failed
      cases failed
      exact step_error h

lemma cycleGated_error
    (failed : cycleGated gate (machine, records) = .error fault (after, records')) :
    after = machine := by
  unfold cycleGated at failed
  rcases bind_eq_error_iff.1 failed with stepped | ⟨admitted, between, _, ticked⟩
  · exact stepGated_error stepped
  · cases admitted <;> cases ticked

end

end Machine

namespace Session

/-! ## Cycles and steps of a session -/

lemma cycle_error {session after : Session} {fault : Fault}
    (failed : session.cycle = .error fault after) :
    after.machine.fault? = some fault ∧ ∃ debugger, after = { session with debugger } := by
  rw [cycle_eq] at failed
  rcases asked : session.machine.ask gate session.debugger with ⟨_ | _, debugger⟩
  · rw [asked] at failed
    cases failed
  · rw [asked] at failed
    -- A step that faults leaves the machine it began with, so only the debugger may differ.
    rcases session.machine.step_cases with ⟨fault', known, stepped⟩ | ⟨_, machine, stepped⟩
    · simp only [stepped] at failed
      cases failed
      exact ⟨known, debugger, rfl⟩
    · simp only [stepped] at failed
      cases failed

lemma step_error {session after : Session} {fault : Fault}
    (failed : session.step = .error fault after) :
    session.machine.fault? = some fault ∧ after = session := by
  unfold step at failed
  rw [run_bind, cycleUnchecked_eq] at failed
  rcases session.machine.step_cases with ⟨fault', known, stepped⟩ | ⟨_, machine, stepped⟩
  · rw [stepped] at failed
    cases failed
    exact ⟨known, rfl⟩
  · rw [stepped] at failed
    cases failed

lemma perform_step_error {session after : Session} {error : Error}
    (failed : perform .step session = .error error after) :
    ∃ fault, error = .fault fault ∧ session.machine.fault? = some fault ∧ after = session := by
  unfold perform at failed
  obtain ⟨fault, stepped, rfl⟩ := adaptExcept_eq_error_iff.1 (map_eq_error_iff.1 failed)
  exact ⟨fault, rfl, step_error stepped⟩

lemma perform_cycle_error {session after : Session} {keys : Option (List Bool)} {error : Error}
    (failed : perform (.cycle keys) session = .error error after) :
    (∃ states, keys = some states ∧ states.length ≠ 16 ∧
        error = .misuse (.latchLength states.length) ∧ after = session) ∨
      ∃ fault keypad debugger, error = .fault fault ∧ session.keypadFor keys = .ok keypad ∧
        after.machine.fault? = some fault ∧
        after = { session.withKeypad keypad with debugger } := by
  rw [perform_cycle_eq] at failed
  cases latched : session.keypadFor keys with
  | error misuse =>
    rw [latched] at failed
    cases failed
    cases keys with
    | none => cases latched
    | some states =>
      -- Keys are refused for their number only.
      simp only [keypadFor, Keypad.ofList] at latched
      split at latched
      · cases latched
      · next length =>
        cases latched
        exact .inl ⟨states, rfl, length, rfl, rfl⟩
  | ok keypad =>
    rw [latched] at failed
    dsimp only at failed
    cases h : (session.withKeypad keypad).cycle with
    | ok completed between =>
      rw [h] at failed
      cases failed
    | error fault between =>
      rw [h] at failed
      cases failed
      obtain ⟨known, debugger, same⟩ := cycle_error h
      exact .inr ⟨fault, keypad, debugger, rfl, rfl, known, same⟩

/-! ## Faults that wait -/

/-- Nothing but a fault is left to the session: its machine faults, and nobody stops it before. -/
def IsStuck (session : Session) (fault : Fault) : Prop :=
  session.debugger.IsQuiet ∧ session.machine.fault? = some fault

/-- A cycle that faults leaves a stuck session, if nobody can stop it. -/
lemma stuck_of_cycle {session after : Session} {keys : Option (List Bool)} {fault : Fault}
    (quiet : session.debugger.IsQuiet)
    (failed : perform (.cycle keys) session = .error (.fault fault) after) :
    after.IsStuck fault := by
  rw [perform_cycle_eq] at failed
  cases latched : session.keypadFor keys with
  | error misuse =>
    rw [latched] at failed
    cases failed
  | ok keypad =>
    rw [latched] at failed
    obtain ⟨debugger, quiet', cycled⟩ := (session.withKeypad keypad).cycle_of_quiet quiet
    dsimp only at failed
    rcases (session.withKeypad keypad).machine.step_cases with ⟨fault', known, stepped⟩ | ⟨_, _, stepped⟩
    · rw [cycled, stepped] at failed
      cases failed
      exact ⟨quiet', known⟩
    · rw [cycled, stepped] at failed
      cases failed

/-- A cycle of a stuck session ends with its fault and leaves it stuck. -/
lemma IsStuck.cycle {session : Session} {fault : Fault} (stuck : session.IsStuck fault) :
    ∃ after, perform (.cycle none) session = .error (.fault fault) after ∧
      after.IsStuck fault := by
  obtain ⟨quiet, known⟩ := stuck
  obtain ⟨debugger, quiet', cycled⟩ := session.cycle_of_quiet quiet
  have stepped := Machine.step_eq_error_iff.2 ⟨known, rfl⟩
  refine ⟨{ session with debugger }, ?_, quiet', known⟩
  rw [stepped] at cycled
  rw [perform_cycle_eq]
  have same : session.withKeypad session.machine.keypad = session := rfl
  simp only [keypadFor, same, cycled]

lemma IsStuck.cycles {session : Session} {fault : Fault} (stuck : session.IsStuck fault)
    (count : Nat) : (session.afterAll (List.replicate count (.cycle none))).IsStuck fault := by
  -- Being stuck is what every further cycle preserves.
  induction count generalizing session with
  | zero => exact stuck
  | succ count ih =>
    obtain ⟨after, failed, stuck'⟩ := stuck.cycle
    have left : session.after (.cycle none) = after := by rw [Session.after, failed]; rfl
    rw [List.replicate_succ, afterAll, List.foldl_cons, left]
    exact ih stuck'

end Session

/-! ## The theorem -/

open Session in
/-- Faults are atomic. An instruction, step or cycle of the machine that faults leaves the machine
as it was, whatever gate watches it, and a step of a session that faults leaves the session as it
was. A cycle of a session that fails has been refused for the number of its keys, with no effect, or
has faulted, with no effect besides the keys that came with it and the records of the debugger. If
the debugger is quiet, the fault comes back in every further cycle. -/
theorem faults_are_atomic :
    (∀ (machine after : Machine) (fault : Fault),
      (∃ word, machine.execute word = .error fault after) ∨ machine.step = .error fault after ∨
        machine.cycle = .error fault after → after = machine) ∧
    (∀ (σ : Type) (gate : Machine.Gate σ) (machine after : Machine) (records records' : σ)
      (fault : Fault),
      Machine.stepGated gate (machine, records) = .error fault (after, records') ∨
        Machine.cycleGated gate (machine, records) = .error fault (after, records') →
      after = machine) ∧
    (∀ (session after : Session) (error : Error), perform .step session = .error error after →
      (∃ fault, error = .fault fault) ∧ after = session) ∧
    (∀ (session after : Session) (keys : Option (List Bool)) (error : Error),
      perform (.cycle keys) session = .error error after →
        (∃ states, keys = some states ∧ states.length ≠ 16 ∧
          error = .misuse (.latchLength states.length) ∧ after = session) ∨
        ∃ fault keypad debugger, error = .fault fault ∧ session.keypadFor keys = .ok keypad ∧
          after = { session.withKeypad keypad with debugger }) ∧
    (∀ (session after : Session) (command : Command) (fault : Fault),
      session.debugger.IsQuiet → command = .step ∨ (∃ keys, command = .cycle keys) →
      perform command session = .error (.fault fault) after →
        ∀ count, ∃ last, perform (.cycle none)
          (after.afterAll (List.replicate count (.cycle none))) = .error (.fault fault) last) := by
  refine ⟨?_, ?_, ?_, ?_, ?_⟩
  · rintro machine after fault (⟨word, failed⟩ | failed | failed)
    · exact Machine.execute_error failed
    · exact Machine.step_error failed
    · exact Machine.cycle_error failed
  · rintro σ gate machine after records records' fault (failed | failed)
    · exact Machine.stepGated_error failed
    · exact Machine.cycleGated_error failed
  · intro session after error failed
    obtain ⟨fault, rfl, _, same⟩ := perform_step_error failed
    exact ⟨⟨fault, rfl⟩, same⟩
  · intro session after keys error failed
    rcases perform_cycle_error failed with refused | ⟨fault, keypad, debugger, h, h', _, same⟩
    · exact .inl refused
    · exact .inr ⟨fault, keypad, debugger, h, h', same⟩
  · intro session after command fault quiet which failed count
    -- The session that the first fault leaves is stuck, whatever keys came with the cycle.
    have stuck : after.IsStuck fault := by
      rcases which with rfl | ⟨keys, rfl⟩
      · obtain ⟨_, h, known, rfl⟩ := perform_step_error failed
        cases h
        exact ⟨quiet, known⟩
      · exact stuck_of_cycle quiet failed
    obtain ⟨last, failed', _⟩ := (stuck.cycles count).cycle
    exact ⟨last, failed'⟩

/-- A session whose program counter is at the last byte of memory, where no word can be read. -/
def Session.atLastByte : Session where
  rom := .empty
  cyclesPerTick := 1
  cyclesPerTick_pos := Nat.one_pos
  machine :=
    (Machine.powerOn .empty (.ofStream fun _ => 0) false).mapProcessor ({ · with pc := 0xFFF })
  debugger := .idle
  cycles := 7
  sinceTick := 0

/-- The fault of a fetch at the last byte of memory. -/
def Fault.atLastByte : Fault where
  cause := .memoryAccess 4096
  pc := some 4095

open Session in
theorem faults_are_atomic_at_last_byte :
    (∃ after, Machine.step atLastByte.machine = .error .atLastByte after ∧
      after = atLastByte.machine) ∧
    (∃ after, Machine.cycleGated gate (atLastByte.machine, .idle) =
      .error .atLastByte (after, .idle) ∧ after = atLastByte.machine) ∧
    (∃ after, perform .step atLastByte = .error (.fault .atLastByte) after ∧ after = atLastByte) ∧
    (∃ after, perform (.cycle (some [true])) atLastByte =
      .error (.misuse (.latchLength 1)) after ∧ after = atLastByte) ∧
    (∃ last, perform (.cycle none) (atLastByte.afterAll (List.replicate 3 (.cycle none))) =
      .error (.fault .atLastByte) last) := by
  obtain ⟨ofMachine, ofGated, ofStep, ofCycle, waits⟩ := faults_are_atomic
  refine ⟨⟨_, rfl, ofMachine _ _ _ (.inr (.inl rfl))⟩,
    ⟨_, rfl, ofGated _ gate _ _ .idle .idle .atLastByte (.inr rfl)⟩, ⟨_, rfl, (ofStep _ _ _ rfl).2⟩, ?_, ?_⟩
  · refine ⟨_, rfl, ?_⟩
    rcases ofCycle atLastByte _ (some [true]) _ rfl with ⟨_, _, _, _, same⟩ | ⟨_, _, _, h, _⟩
    · exact same
    · cases h
  · exact waits atLastByte atLastByte .step _ Debugger.isQuiet_idle (.inl rfl) rfl 3

end Chip8
