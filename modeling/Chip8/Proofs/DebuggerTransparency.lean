import Chip8.Proofs.Frames
import Chip8.Proofs.Keypads
import Chip8.Proofs.SessionMoves

/-!
# The debugger is transparent

Breakpoints, stops, resumed runs and single steps decide when cycles happen, not what they do. A
session that is run and steered in any way is, after `k` cycles, in the state that `k` cycles
reach which nobody stops, with the same keys down in each; and a fault that it reports is the one
that the next of those cycles ends with.

The proof follows the moves of a session (`SessionMoves`). The undisturbed session stays still while
the debugger moves and makes a cycle whenever the other completes one, and between the two only the
debugger and the keys ever differ (`Matches`).
-/

namespace Chip8

namespace Session

/-! ## Steering -/

/-- The commands that run the machine, steer the debugger or set keys. -/
def Command.isSteering : Command → Bool
  | .cycle _ | .step | .run _ _ | .runUntil _ _ => true
  | .addBreakpoint _ | .removeBreakpoint _ | .clearBreakpoints | .requestStop => true
  | .setKeys _ | .press _ | .release _ => true
  | _ => false

/-- A call went by moves, apart from setting keys, and reports no fault but that of the machine. -/
def Steers (session : Session) (outcome : EStateM.Result Error Session Answer) : Prop :=
  (∃ keypad, Moves (session.withKeypad keypad) (leaves outcome)) ∧
    ∀ fault after, outcome = .error (.fault fault) after → after.machine.fault? = some fault

/-- What runs cycles steers. -/
lemma Ends.steers {α : Type} {program : EStateM Fault Session α} {session : Session}
    (answer : α → Answer) (ends : Ends session (program session)) :
    Steers session ((answer <$> program.adaptExcept .fault) session) := by
  unfold Steers
  rw [run_map, run_adaptExcept]
  cases h : program session with
  | ok a after =>
    rw [h] at ends
    exact ⟨⟨session.machine.keypad, ends⟩, fun _ _ failed => by cases failed⟩
  | error fault after =>
    rw [h] at ends
    refine ⟨⟨session.machine.keypad, ends.1⟩, ?_⟩
    rintro _ _ ⟨⟩
    exact ends.2

/-- What changes the debugger steers. -/
lemma steers_mapDebugger (f : Debugger → Debugger) (session : Session) :
    Steers session (.ok .done (session.mapDebugger f)) :=
  ⟨⟨session.machine.keypad, .single (.debugger session _)⟩, fun _ _ failed => by cases failed⟩

/-- What sets keys steers. -/
lemma steers_tryKeypad (change : Keypad → Except Misuse Keypad) (session : Session) :
    Steers session
      ((do tryKeypad change; return .done : EStateM Error Session Answer) session) := by
  rw [run_bind, run_tryKeypad]
  cases change session.machine.keypad with
  | ok keypad => exact ⟨⟨keypad, .refl⟩, fun _ _ failed => by cases failed⟩
  | error misuse => exact ⟨⟨session.machine.keypad, .refl⟩, fun _ _ failed => by cases failed⟩

lemma steers_cycle (keys : Option (List Bool)) (session : Session) :
    Steers session (perform (.cycle keys) session) := by
  rw [perform_cycle_eq]
  cases session.keypadFor keys with
  | error misuse => exact ⟨⟨session.machine.keypad, .refl⟩, fun _ _ failed => by cases failed⟩
  | ok keypad =>
    have ends := ends_cycle (session.withKeypad keypad)
    dsimp only
    cases h : (session.withKeypad keypad).cycle with
    | ok completed after =>
      rw [h] at ends
      exact ⟨⟨keypad, ends⟩, fun _ _ failed => by cases failed⟩
    | error fault after =>
      rw [h] at ends
      refine ⟨⟨keypad, ends.1⟩, ?_⟩
      rintro _ _ ⟨⟩
      exact ends.2

lemma steers_perform {command : Command} (steering : command.isSteering) (session : Session) :
    Steers session (perform command session) := by
  cases command
  case cycle keys => exact steers_cycle keys session
  case step => exact (ends_step session).steers .event
  case run budget untilKeyWait => exact (ends_run budget untilKeyWait session).steers .event
  case runUntil address budget => exact (ends_runUntil address budget session).steers .truth
  case addBreakpoint address => exact steers_mapDebugger _ session
  case removeBreakpoint address => exact steers_mapDebugger _ session
  case clearBreakpoints => exact steers_mapDebugger _ session
  case requestStop => exact steers_mapDebugger _ session
  case setKeys keys => exact steers_tryKeypad _ session
  case press key => exact steers_tryKeypad _ session
  case release key => exact steers_tryKeypad _ session
  all_goals cases steering

/-! ## What moves keep -/

lemma Move.keypad_eq {session after : Session} (move : Move session after) :
    after.machine.keypad = session.machine.keypad := by
  cases move with
  | debugger => rfl
  | cycle stepped =>
    rw [completeCycle_keypad]
    exact Machine.keypad_of_step stepped

lemma Move.cycles_le {session after : Session} (move : Move session after) :
    session.cycles ≤ after.cycles := by
  cases move with
  | debugger => exact Nat.le_refl _
  | cycle stepped =>
    rw [completeCycle_cycles]
    exact Nat.le_succ _

lemma Moves.keypad_eq {session after : Session} (moves : Moves session after) :
    after.machine.keypad = session.machine.keypad := by
  induction moves with
  | refl => rfl
  | tail _ move ih => exact move.keypad_eq.trans ih

lemma Moves.cycles_le {session after : Session} (moves : Moves session after) :
    session.cycles ≤ after.cycles := by
  induction moves with
  | refl => exact Nat.le_refl _
  | tail _ move ih => exact ih.trans move.cycles_le

/-! ## The undisturbed session -/

/-- Runs cycles, the keys being set before each to those of a schedule. -/
def cyclesWith (latches : Nat → Keypad) : Nat → EStateM Error Session Unit
  | 0 => pure ()
  | count + 1 => do
    cyclesWith latches count
    let _ ← perform (.cycle (some (latches count).down.toList))

/-- The keys that are down after a number of cycles with the keys of a schedule. -/
def lastLatch (latches : Nat → Keypad) : Nat → Keypad
  | 0 => .released
  | count + 1 => latches count

/-- Between the undisturbed session and the steered one only the debugger and the keys differ. -/
def Matches (plain session : Session) : Prop :=
  plain.debugger.IsQuiet ∧
    plain = { session.withKeypad plain.machine.keypad with debugger := plain.debugger }

/-- With its keys set to those of the steered session, the undisturbed one is the same but for the
debugger. -/
lemma Matches.withKeypad_eq {plain session : Session} (matched : Matches plain session) :
    plain.withKeypad session.machine.keypad = { session with debugger := plain.debugger } := by
  rw [matched.2]
  rfl

/-- When the steered session completes a cycle, so does the undisturbed one. -/
lemma Matches.cycle {plain session : Session} (matched : Matches plain session)
    {machine : Machine} (stepped : session.machine.step = .ok () machine) :
    ∃ plain', perform (.cycle (some session.machine.keypad.down.toList)) plain =
        .ok (.truth true) plain' ∧
      plain'.machine.keypad = session.machine.keypad ∧
      Matches plain' (completeCycle { session with machine }) := by
  obtain ⟨debugger, quiet, cycled⟩ :=
    (plain.withKeypad session.machine.keypad).cycle_of_quiet matched.1
  rw [matched.withKeypad_eq] at cycled
  simp only [stepped] at cycled
  -- It counts the same cycle, and its own debugger goes along.
  refine ⟨completeCycle { session with machine, debugger }, ?_, ?_, ?_⟩
  · rw [perform_cycle_eq, keypadFor, Keypad.ofList_toList]
    simp only [matched.withKeypad_eq, cycled]
  · rw [completeCycle_keypad]
    exact Machine.keypad_of_step stepped
  · rw [completeCycle_debugger { session with machine } debugger]
    exact ⟨quiet, rfl⟩

/-- When the steered session faults, so does the undisturbed one. -/
lemma Matches.fault {plain session : Session} (matched : Matches plain session) {fault : Fault}
    (known : session.machine.fault? = some fault) :
    ∃ failed, perform (.cycle (some session.machine.keypad.down.toList)) plain =
      .error (.fault fault) failed := by
  obtain ⟨debugger, _, cycled⟩ :=
    (plain.withKeypad session.machine.keypad).cycle_of_quiet matched.1
  have stepped := Machine.step_eq_error_iff.2 ⟨known, rfl⟩
  rw [matched.withKeypad_eq] at cycled
  simp only [stepped] at cycled
  refine ⟨{ session with debugger }, ?_⟩
  rw [perform_cycle_eq, keypadFor, Keypad.ofList_toList]
  simp only [matched.withKeypad_eq, cycled]

/-- The undisturbed session gets through as many cycles as the steered one has completed, and then
matches it. -/
def Tracked (latches : Nat → Keypad) (initial session : Session) : Prop :=
  ∃ plain, cyclesWith latches session.cycles initial = .ok () plain ∧
    plain.machine.keypad = lastLatch latches session.cycles ∧ Matches plain session

lemma Tracked.withKeypad {latches : Nat → Keypad} {initial session : Session}
    (tracked : Tracked latches initial session) (keypad : Keypad) :
    Tracked latches initial (session.withKeypad keypad) := tracked

lemma Tracked.move {latches : Nat → Keypad} {initial session after : Session}
    (tracked : Tracked latches initial session) (move : Move session after)
    (follows : session.cycles < after.cycles → session.machine.keypad = latches session.cycles) :
    Tracked latches initial after := by
  obtain ⟨plain, reached, latched, matched⟩ := tracked
  cases move with
  | debugger debugger =>
    -- The undisturbed session stays where it is.
    exact ⟨plain, reached, latched, matched⟩
  | @cycle machine stepped =>
    -- It makes the same cycle. The keys agree because the schedule has been followed.
    have counted := completeCycle_cycles { session with machine }
    have latch := follows (by rw [counted]; exact Nat.lt_succ_self _)
    obtain ⟨plain', cycled, latched', matched'⟩ := matched.cycle stepped
    refine ⟨plain', ?_, ?_, matched'⟩
    · rw [counted, cyclesWith, run_bind, reached]
      rw [latch] at cycled
      dsimp only
      rw [run_bind, cycled]
      rfl
    · rw [counted, latched', latch]
      rfl

lemma Tracked.moves {latches : Nat → Keypad} {initial session after : Session}
    (tracked : Tracked latches initial session) (moves : Moves session after)
    (follows : ∀ k, session.cycles ≤ k → k < after.cycles → after.machine.keypad = latches k) :
    Tracked latches initial after := by
  -- By induction on the moves. None of them changes the keys, so what the schedule says of the
  -- last session holds of every one before.
  induction moves with
  | refl => exact tracked
  | @tail between after moves move ih =>
    refine (ih fun k low high => ?_).move move fun high => ?_
    · rw [← follows k low (high.trans_le move.cycles_le), move.keypad_eq]
    · rw [← follows _ (Moves.cycles_le moves) high, move.keypad_eq]

/-! ## The theorem -/

/-- The keys that are down in the cycles that commands complete are those of a schedule. -/
def Follows (latches : Nat → Keypad) : Session → List Command → Prop
  | _, [] => True
  | session, command :: rest =>
    (∀ k, session.cycles ≤ k → k < (session.after command).cycles →
      (session.after command).machine.keypad = latches k) ∧
    Follows latches (session.after command) rest

/-- Commands that leave the same keys down follow the schedule of these keys. -/
lemma follows_of_keypad {session : Session} {commands : List Command} {keypad : Keypad}
    (held : ∀ n < commands.length,
      (session.afterAll (commands.take (n + 1))).machine.keypad = keypad) :
    Follows (fun _ => keypad) session commands := by
  induction commands generalizing session with
  | nil => trivial
  | cons command rest ih =>
    refine ⟨fun _ _ _ => held 0 (Nat.succ_pos _), ih fun n low => ?_⟩
    exact held (n + 1) (Nat.succ_lt_succ low)

lemma Tracked.after {latches : Nat → Keypad} {initial session : Session} {command : Command}
    (tracked : Tracked latches initial session) (steering : command.isSteering)
    (follows : ∀ k, session.cycles ≤ k → k < (session.after command).cycles →
      (session.after command).machine.keypad = latches k) :
    Tracked latches initial (session.after command) := by
  obtain ⟨⟨keypad, moves⟩, _⟩ := steers_perform steering session
  exact (tracked.withKeypad keypad).moves moves follows

lemma Tracked.afterAll {latches : Nat → Keypad} {initial session : Session}
    {commands : List Command} (tracked : Tracked latches initial session)
    (steering : ∀ command ∈ commands, command.isSteering)
    (follows : Follows latches session commands) :
    Tracked latches initial (session.afterAll commands) := by
  -- By induction on the commands, for the session that the first of them leaves.
  induction commands generalizing session with
  | nil => exact tracked
  | cons command rest ih =>
    obtain ⟨now, later⟩ := follows
    exact ih (tracked.after (steering command List.mem_cons_self) now)
      (fun other mem => steering other (List.mem_cons_of_mem _ mem)) later

lemma tracked_of_start {settings : Settings} {random : RandomSource}
    {image : Except Error (List UInt8)} {initial : Session}
    (started : start settings random image = .ok initial) (latches : Nat → Keypad) :
    Tracked latches initial initial := by
  obtain ⟨rom, positive, -, rfl⟩ := start_eq_ok_iff.1 started
  exact ⟨_, rfl, rfl, Debugger.isQuiet_idle, rfl⟩

/-- The debugger is transparent. Whatever commands have run and steered a session, as many cycles
of the undisturbed session as it has completed succeed, with the same keys down in each, and lead to
the same machine and counters, apart from keys that were set since. A fault that the session then
reports is the one that the next cycle of the undisturbed session ends with. -/
theorem debugger_is_transparent {settings : Settings} {random : RandomSource}
    {image : Except Error (List UInt8)} {initial : Session}
    (started : start settings random image = .ok initial) (latches : Nat → Keypad)
    (commands : List Command) (steering : ∀ command ∈ commands, command.isSteering)
    (follows : Follows latches initial commands) :
    let session := initial.afterAll commands
    (∃ plain, cyclesWith latches session.cycles initial = .ok () plain ∧
      plain.cycles = session.cycles ∧ plain.sinceTick = session.sinceTick ∧
      plain.machine.keypad = lastLatch latches session.cycles ∧
      session.machine = (plain.withKeypad session.machine.keypad).machine) ∧
    ∀ command fault final, command.isSteering → Follows latches session [command] →
      perform command session = .error (.fault fault) final →
        ∃ plain failed, cyclesWith latches final.cycles initial = .ok () plain ∧
          perform (.cycle (some final.machine.keypad.down.toList)) plain =
            .error (.fault fault) failed := by
  intro session
  have tracked : Tracked latches initial session :=
    (tracked_of_start started latches).afterAll steering follows
  constructor
  · obtain ⟨plain, reached, latched, matched⟩ := tracked
    refine ⟨plain, reached, ?_, ?_, latched, ?_⟩
    · rw [matched.2]
      rfl
    · rw [matched.2]
      rfl
    · rw [matched.withKeypad_eq]
  · -- The command completes cycles before it faults, so it is followed to its end first.
    intro command fault final steers now failed
    have left : session.after command = final := by rw [Session.after, failed]; rfl
    obtain ⟨plain, reached, _, matched⟩ := tracked.after steers now.1
    rw [left] at reached matched
    obtain ⟨_, known⟩ := steers_perform steers session
    obtain ⟨failed', faulted⟩ := matched.fault (known fault final failed)
    exact ⟨plain, failed', reached, faulted⟩

/-- The fault that a command reports, if it does. -/
def reported? {α : Type} : EStateM.Result Error Session α → Option Fault
  | .error (.fault fault) _ => some fault
  | _ => none

lemma eq_of_reported? {α : Type} (outcome : EStateM.Result Error Session α) (fault : Fault)
    (reported : reported? outcome = some fault) :
    outcome = .error (.fault fault) (leaves outcome) := by
  rcases outcome with _ | ⟨_ | _ | _ | _, _⟩ <;> cases reported
  rfl

/-- A program that counts `V0` up to three in a loop and then returns, though nobody has called. -/
def countingRom : Rom where
  bytes := [0x70, 0x01, 0x30, 0x03, 0x12, 0x00, 0x00, 0xEE]
  fits := by decide

/-- A session that begins to count. -/
def counting : Session where
  rom := countingRom
  cyclesPerTick := 1
  cyclesPerTick_pos := by decide
  machine := .powerOn countingRom (.ofStream fun _ => 0) false
  debugger := .idle
  cycles := 0
  sinceTick := 0

/-- The return that finds no slot of the stack in use. -/
def countingFault : Fault where
  cause := .stackUnderflow
  pc := some 0x206
  opcode := some 0x00EE

/-- Stopped in the loop, resumed, stepped and freed of the breakpoint, the program has completed
three cycles; it returns after eight. -/
theorem debugger_is_transparent_counting :
    let session := counting.afterAll
      [.addBreakpoint 0x202, .run 5 false, .run 1 false, .step, .clearBreakpoints]
    session.cycles = 3 ∧
    (∃ plain, cyclesWith (fun _ => .released) session.cycles counting = .ok () plain ∧
      plain.cycles = session.cycles ∧ plain.sinceTick = session.sinceTick ∧
      plain.machine.keypad = lastLatch (fun _ => .released) session.cycles ∧
      session.machine = (plain.withKeypad session.machine.keypad).machine) ∧
    ∃ final, final.cycles = 8 ∧
      perform (.run 100 false) session = .error (.fault countingFault) final ∧
      ∃ plain failed, cyclesWith (fun _ => .released) final.cycles counting = .ok () plain ∧
        perform (.cycle (some final.machine.keypad.down.toList)) plain =
          .error (.fault countingFault) failed := by
  intro session
  have started : start {} (.ofStream fun _ => 0) (.ok countingRom.bytes) =
      .ok counting := rfl
  obtain ⟨reached, faults⟩ := debugger_is_transparent started (fun _ => .released)
    [.addBreakpoint 0x202, .run 5 false, .run 1 false, .step, .clearBreakpoints]
    (by decide) (follows_of_keypad (by decide +kernel))
  have failed := eq_of_reported? (perform (.run 100 false) session) countingFault
    (by decide +kernel)
  refine ⟨by decide +kernel, reached, session.after (.run 100 false), by decide +kernel, failed, ?_⟩
  exact faults (.run 100 false) countingFault _ rfl (follows_of_keypad (by decide +kernel)) failed

end Session

end Chip8
