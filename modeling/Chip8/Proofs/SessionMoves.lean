import Chip8.Proofs.InstructionFaults
import Chip8.Session.Command

/-!
# What can happen to a session

While a session runs, only two things happen to it: the debugger changes its records, or a cycle
completes. `Move` names them, `Ends` says of a finished call that it was made of such moves and
that a fault it reports is the one of the machine it left. Everything that runs cycles `Ends`
(`ends_cycle`, `ends_step`, `ends_run`, `ends_runUntil`), whatever the debugger does in between.
-/

namespace Chip8

/-! ## Quiet debuggers -/

/-- No breakpoint is set and no stop is asked for. -/
def Debugger.IsQuiet (debugger : Debugger) : Prop :=
  debugger.breakpoints = .empty ∧ debugger.stopRequested = false

lemma Debugger.isQuiet_idle : Debugger.idle.IsQuiet := ⟨rfl, rfl⟩

/-- A quiet debugger admits every instruction and stays quiet. -/
lemma Debugger.IsQuiet.check {debugger : Debugger} (quiet : debugger.IsQuiet) (pc : Int) :
    debugger.check pc = (true, debugger.clearResume) := by
  unfold Debugger.check
  rw [quiet.1, quiet.2]
  rfl

namespace Session

variable {α β : Type}

/-- The session with other keys down. -/
def withKeypad (session : Session) (keypad : Keypad) : Session :=
  { session with machine := { session.machine with keypad } }

/-! ## Starting -/

/-- A session that has just been started. -/
def powerOn (rom : Rom) (cyclesPerTick : Nat) (positive : 0 < cyclesPerTick)
    (random : RandomSource) (spritesWrap : Bool) : Session where
  rom
  cyclesPerTick
  cyclesPerTick_pos := positive
  machine := .powerOn rom random spritesWrap
  debugger := .idle
  cycles := 0
  sinceTick := 0

lemma start_eq_ok_iff {settings : Settings} {random : RandomSource}
    {image : Except Error (List UInt8)} {initial : Session} :
    start settings random image = .ok initial ↔
      ∃ rom positive, image.bind (Rom.ofFile settings.romPath) = .ok rom ∧
        initial = powerOn rom settings.cyclesPerTick.toNat positive random settings.spritesWrap := by
  unfold start
  by_cases tooFew : settings.cyclesPerTick < 1
  · rw [dif_pos tooFew]
    constructor
    · nofun
    · rintro ⟨rom, positive, -, -⟩
      omega
  · have positive : 0 < settings.cyclesPerTick.toNat := by omega
    rw [dif_neg tooFew]
    cases read : image.bind (Rom.ofFile settings.romPath) with
    | error error => simp
    | ok rom =>
      constructor
      · rintro ⟨⟩
        exact ⟨rom, positive, rfl, rfl⟩
      · rintro ⟨_, _, ⟨⟩, rfl⟩
        rfl

lemma debugger_of_start {settings : Settings} {random : RandomSource}
    {image : Except Error (List UInt8)} {initial : Session}
    (started : start settings random image = .ok initial) : initial.debugger = .idle := by
  obtain ⟨rom, positive, -, rfl⟩ := start_eq_ok_iff.1 started
  rfl

/-! ## Cycles -/

/-- A cycle asks the debugger, and executes if it agrees. -/
lemma cycle_eq (session : Session) :
    session.cycle =
      match session.machine.ask gate session.debugger with
      | (false, debugger) => .ok false { session with debugger }
      | (true, debugger) =>
        match session.machine.step with
        | .ok () machine => .ok true (completeCycle { session with machine, debugger })
        | .error fault machine => .error fault { session with machine, debugger } := by
  obtain ⟨rom, cyclesPerTick, positive, machine, debugger, cycles, sinceTick⟩ := session
  -- With the fields named, both sides name the same session.
  simp only [cycle, Machine.stepGated]
  rcases machine.ask gate debugger with ⟨admitted, debugger'⟩
  cases admitted with
  | false => rfl
  | true =>
    dsimp only
    cases machine.step <;> rfl

/-- The debugger that a cycle leaves after it was asked about the machine. -/
lemma ask_of_quiet (machine : Machine) {debugger : Debugger} (quiet : debugger.IsQuiet) :
    ∃ debugger', debugger'.IsQuiet ∧ machine.ask gate debugger = (true, debugger') := by
  unfold Machine.ask
  cases machine.upcoming? with
  | none => exact ⟨debugger, quiet, rfl⟩
  | some word => exact ⟨debugger.clearResume, quiet, quiet.check _⟩

/-- Under a quiet debugger a cycle always executes. -/
lemma cycle_of_quiet (session : Session) (quiet : session.debugger.IsQuiet) :
    ∃ debugger : Debugger, debugger.IsQuiet ∧
      session.cycle =
        match session.machine.step with
        | .ok () machine => .ok true (completeCycle { session with machine, debugger })
        | .error fault machine => .error fault { session with machine, debugger } := by
  obtain ⟨debugger, quiet', asked⟩ := ask_of_quiet session.machine quiet
  refine ⟨debugger, quiet', ?_⟩
  rw [cycle_eq, asked]

lemma cycleUnchecked_eq (session : Session) :
    session.cycleUnchecked =
      match session.machine.step with
      | .ok () machine => .ok () (completeCycle { session with machine })
      | .error fault machine => .error fault { session with machine } := by
  obtain ⟨rom, cyclesPerTick, positive, machine, debugger, cycles, sinceTick⟩ := session
  rfl

lemma completeCycle_keypad (session : Session) :
    session.completeCycle.machine.keypad = session.machine.keypad := by
  unfold completeCycle
  split <;> rfl

lemma completeCycle_cycles (session : Session) :
    session.completeCycle.cycles = session.cycles + 1 := by
  unfold completeCycle
  split <;> rfl

/-- Counting a cycle commutes with changing the debugger. -/
lemma completeCycle_debugger (session : Session) (debugger : Debugger) :
    completeCycle { session with debugger } = { completeCycle session with debugger } := by
  unfold completeCycle
  dsimp only
  split <;> rfl

/-! ## Moves -/

/-- What can happen to a session while it runs. -/
inductive Move : Session → Session → Prop
  /-- The debugger changes its records. -/
  | debugger (session : Session) (debugger : Debugger) : Move session { session with debugger }
  /-- A cycle completes. -/
  | cycle {session : Session} {machine : Machine} (stepped : session.machine.step = .ok () machine) :
    Move session (completeCycle { session with machine })

/-- Any number of moves. -/
abbrev Moves : Session → Session → Prop := Relation.ReflTransGen Move

/-- A call went from a session by moves; a fault that it reports is the fault of the machine. -/
def Ends (session : Session) : EStateM.Result Fault Session α → Prop
  | .ok _ after => Moves session after
  | .error fault after => Moves session after ∧ after.machine.fault? = some fault

/-- Moves made before the call belong to it. -/
lemma Ends.after {session between : Session} {outcome : EStateM.Result Fault Session α}
    (moves : Moves session between) (ends : Ends between outcome) : Ends session outcome := by
  cases outcome with
  | ok _ after => exact moves.trans ends
  | error _ after => exact ⟨moves.trans ends.1, ends.2⟩

lemma Ends.bind {program : EStateM Fault Session α} {next : α → EStateM Fault Session β}
    {session : Session} (first : Ends session (program session))
    (rest : ∀ a between, Ends between (next a between)) :
    Ends session ((program >>= next) session) := by
  rw [run_bind]
  cases h : program session with
  | ok a between =>
    rw [h] at first
    exact (rest a between).after first
  | error fault after =>
    rw [h] at first
    exact first

/-- A program that only changes the debugger. -/
lemma ends_mapDebugger (f : Debugger → Debugger) (session : Session) :
    Ends session ((modify (·.mapDebugger f) : EStateM Fault Session Unit) session) :=
  .single (.debugger session (f session.debugger))

lemma ends_cycle (session : Session) : Ends session session.cycle := by
  rw [cycle_eq]
  rcases session.machine.ask gate session.debugger with ⟨_ | _, debugger⟩
  · exact .single (.debugger session debugger)
  · -- The debugger has its records even when the step faults: it was asked before.
    have moved : Move session { session with debugger } := .debugger session debugger
    rcases session.machine.step_cases with ⟨fault, known, stepped⟩ | ⟨_, machine, stepped⟩
    · simp only [stepped]
      exact ⟨.single moved, known⟩
    · simp only [stepped]
      exact .tail (.single moved) (.cycle stepped)

lemma ends_cycleUnchecked (session : Session) : Ends session session.cycleUnchecked := by
  rw [cycleUnchecked_eq]
  rcases session.machine.step_cases with ⟨fault, known, stepped⟩ | ⟨_, machine, stepped⟩
  · rw [stepped]
    exact ⟨.refl, known⟩
  · rw [stepped]
    exact .single (.cycle stepped)

lemma ends_step (session : Session) : Ends session session.step :=
  (ends_cycleUnchecked session).bind fun _ between =>
    (ends_mapDebugger .clearResume between).bind fun _ _ => .refl

lemma ends_runCycles (untilKeyWait : Bool) (budget : Nat) (session : Session) :
    Ends session (runCycles untilKeyWait budget session) := by
  -- On the budget, for all sessions at once: the rest of a run begins where its first cycle led.
  induction budget generalizing session with
  | zero => exact .refl
  | succ budget ih =>
    refine (ends_cycle session).bind fun completed between => ?_
    cases completed with
    | false => exact .refl
    | true =>
      simp only [↓reduceIte, run_bind, run_get]
      -- The run may end here because the program waits for a key.
      split
      · exact .refl
      · exact ih between

lemma ends_run (budget : Int) (untilKeyWait : Bool) (session : Session) :
    Ends session (run budget untilKeyWait session) := by
  refine (ends_mapDebugger .clearLastStop session).bind fun _ between => ?_
  refine (ends_runCycles untilKeyWait budget.toNat between).bind fun event between => ?_
  cases event <;> exact .refl

lemma ends_runUntil (address budget : Int) (session : Session) :
    Ends session (runUntil address budget session) := by
  have restored (wasSet : Bool) (between : Session) :
      Moves between
        (if wasSet then between else between.mapDebugger (·.removeBreakpoint address)) := by
    cases wasSet with
    | false => exact .single (.debugger between _)
    | true => exact .refl
  -- Setting the breakpoint and taking it back are moves like any other.
  have ends := (ends_run budget false (session.mapDebugger (·.addBreakpoint address))).after
    (.single (.debugger session _))
  unfold runUntil
  dsimp only
  cases h : run budget false (session.mapDebugger (·.addBreakpoint address)) with
  | ok event between =>
    rw [h] at ends
    exact ends.trans (restored _ between)
  | error fault between =>
    rw [h] at ends
    refine ⟨ends.1.trans (restored _ between), ?_⟩
    -- Taking it back leaves the machine alone, and with it the fault.
    rw [← ends.2]
    split <;> rfl

/-! ## Commands -/

/-- The session that a command leaves, whether it succeeds or not. -/
def after (session : Session) (command : Command) : Session :=
  leaves (perform command session)

/-- The session that commands leave one after the other. -/
def afterAll (session : Session) (commands : List Command) : Session :=
  commands.foldl after session

/-- The keys that are down in a cycle, if all keys are set first or if they are not. -/
def keypadFor (session : Session) : Option (List Bool) → Except Misuse Keypad
  | none => .ok session.machine.keypad
  | some states => Keypad.ofList states

lemma run_tryKeypad (change : Keypad → Except Misuse Keypad) (session : Session) :
    tryKeypad change session = match change session.machine.keypad with
      | .ok keypad => .ok () (session.withKeypad keypad)
      | .error misuse => .error (.misuse misuse) session := by
  unfold tryKeypad tryMachine
  cases h : change session.machine.keypad <;> simp only [h, withKeypad]

/-- A cycle with its keys set, if they are given and make sense. -/
lemma cycleWith_eq (keys : Option (List Bool)) (session : Session) :
    cycleWith keys session = match session.keypadFor keys with
      | .error misuse => .error (.misuse misuse) session
      | .ok keypad => match (session.withKeypad keypad).cycle with
        | .ok completed after => .ok completed after
        | .error fault after => .error (.fault fault) after := by
  cases keys with
  | none =>
    have run : cycleWith none session = (EStateM.adaptExcept Error.fault cycle) session := rfl
    have same : session.withKeypad session.machine.keypad = session := rfl
    rw [run, run_adaptExcept]
    simp only [keypadFor, same]
    cases session.cycle <;> rfl
  | some states =>
    have latched : setKeys states session = match Keypad.ofList states with
        | .ok keypad => .ok () (session.withKeypad keypad)
        | .error misuse => .error (.misuse misuse) session := run_tryKeypad _ session
    simp only [cycleWith, run_bind, latched, keypadFor]
    cases Keypad.ofList states with
    | error misuse => rfl
    | ok keypad =>
      dsimp only
      rw [run_adaptExcept]
      cases (session.withKeypad keypad).cycle <;> rfl

lemma perform_cycle_eq (keys : Option (List Bool)) (session : Session) :
    perform (.cycle keys) session = match session.keypadFor keys with
      | .error misuse => .error (.misuse misuse) session
      | .ok keypad => match (session.withKeypad keypad).cycle with
        | .ok completed after => .ok (.truth completed) after
        | .error fault after => .error (.fault fault) after := by
  rw [perform, run_map, cycleWith_eq]
  cases session.keypadFor keys with
  | error misuse => rfl
  | ok keypad =>
    dsimp only
    cases (session.withKeypad keypad).cycle <;> rfl

end Session

end Chip8
