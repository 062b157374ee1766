import Chip8.Proofs.Raw.SessionView

/-!
# Operations of hosts

Everything that a host can do to a machine or a session, with numbers of any size: `operate` says
what it does to the machine, `Raw.operate` what it does to the raw machine. An operation that fails
leaves a state too. On views both come to the same (`toRaw_operate`), also one after the other
(`toRaw_operateAll`).
-/

namespace Chip8

/-! ## Machines -/

/-- What a host can do to a machine. -/
inductive Machine.Operation
  | step
  | cycle
  | fetch
  | tick
  | execute (word : Int)
  | resetProcessor
  | assign (register : Processor.Special) (number : Int)
  | assignV (register : Register) (number : Int)
  | write (address number : Int)
  | writeBytes (address : Int) (data : List Int)
  | loadRom (rom : List UInt8)
  | resetMemory
  | draw (x y : Int) (sprites : List Int) (wrap : Bool)
  | clearScreen
  | acknowledge
  | setKeys (states : List Bool)
  | setKey (reference : KeyReference) (isDown : Bool)
  | releaseAll

namespace Machine

/-- The machine with other contents of memory, unless they are refused. -/
def remember {ε : Type} (machine : Machine) (memory : Except ε Memory) : Machine :=
  match memory with
  | .ok memory => { machine with memory }
  | .error _ => machine

/-- The machine with other keys down, unless they are refused. -/
def latch {ε : Type} (machine : Machine) (keypad : Except ε Keypad) : Machine :=
  match keypad with
  | .ok keypad => { machine with keypad }
  | .error _ => machine

lemma remember_eq {ε : Type} (machine : Machine) (contents : Except ε Memory) :
    ∃ memory, machine.remember contents = { machine with memory } := by
  cases contents with
  | error _ => exact ⟨machine.memory, rfl⟩
  | ok memory => exact ⟨memory, rfl⟩

lemma latch_eq {ε : Type} (machine : Machine) (keys : Except ε Keypad) :
    ∃ keypad, machine.latch keys = { machine with keypad } := by
  cases keys with
  | error _ => exact ⟨machine.keypad, rfl⟩
  | ok keypad => exact ⟨keypad, rfl⟩

/-- The machine that an operation leaves. -/
def operate (machine : Machine) : Operation → Machine
  | .step => leaves (step machine)
  | .cycle => leaves (cycle machine)
  | .fetch => machine
  | .tick => machine.tick
  | .execute word => leaves (machine.execute (.ofInt word))
  | .resetProcessor => { machine with processor := .powerOn }
  | .assign register number => machine.mapProcessor (·.assign register number)
  | .assignV register number => machine.mapProcessor (·.setV register (.ofInt number))
  | .write address number => machine.remember (machine.memory.write address (.ofInt number))
  | .writeBytes address data => machine.remember (machine.memory.writeBytes address (data.map .ofInt))
  | .loadRom rom => machine.remember ((Rom.ofBytes rom).map machine.memory.load)
  | .resetMemory => { machine with memory := .blank }
  | .draw x y sprites wrap => { machine with screen := (machine.screen.draw x y sprites wrap).2 }
  | .clearScreen => { machine with screen := .blank }
  | .acknowledge => { machine with screen := machine.screen.acknowledge }
  | .setKeys states => machine.latch (Keypad.ofList states)
  | .setKey reference isDown =>
    machine.latch (reference.resolve.map (machine.keypad.set · isDown))
  | .releaseAll => { machine with keypad := .released }

/-- The machine that operations leave one after the other. -/
def operateAll (machine : Machine) (operations : List Operation) : Machine :=
  operations.foldl operate machine

end Machine

namespace Raw

/-- Sets a special register to as many low bits of a number as it holds. -/
def assign (register : Processor.Special) (number : Int) : Program Unit :=
  match register with
  | .index => setIndex number
  | .pc => jump number
  | .delay => modify ({ · with delay := number % 256 })
  | .sound => modify ({ · with sound := number % 256 })

/-- Acknowledges that the screen has been shown. -/
def acknowledge : Program Unit := modify ({ · with isStale := false })

/-- Carries an operation out. -/
def operate : Machine.Operation → Program Unit
  | .step => step
  | .cycle => cycle
  | .fetch => do let _ ← fetch
  | .tick => tick
  | .execute word => execute word
  | .resetProcessor => resetProcessor
  | .assign register number => assign register number
  | .assignV register number => setV register.val (number % 256)
  | .write address number => write address number
  | .writeBytes address data => writeBytes address data
  | .loadRom rom => loadRom rom
  | .resetMemory => resetMemory
  | .draw x y sprites wrap => do let _ ← draw x y sprites wrap
  | .clearScreen => clearScreen
  | .acknowledge => acknowledge
  | .setKeys states => setKeys states
  | .setKey reference isDown => setKey reference isDown
  | .releaseAll => releaseAll

/-! ### On views -/

lemma run_resetProcessor (machine : Chip8.Machine) :
    resetProcessor machine.toRaw =
      .ok () ({ machine with processor := .powerOn } : Chip8.Machine).toRaw := rfl

lemma run_releaseAll (machine : Chip8.Machine) :
    releaseAll machine.toRaw = .ok () ({ machine with keypad := .released } : Chip8.Machine).toRaw :=
  rfl

lemma blankMemory_eq : blankMemory = numbers Memory.blank.data.toList := by
  have zeros : List.replicate 4096 0 = numbers (Vector.replicate 4096 0).toList := by
    rw [Vector.toList_replicate, numbers, List.map_replicate]
    rfl
  have fits : 0 + font.length ≤ 4096 := by decide
  unfold blankMemory Memory.blank
  rw [zeros, ← setSlice_numbers fits]
  rfl

lemma run_resetMemory (machine : Chip8.Machine) :
    resetMemory machine.toRaw = .ok () ({ machine with memory := .blank } : Chip8.Machine).toRaw := by
  unfold resetMemory
  rw [run_modify, blankMemory_eq]
  rfl

/-- An image that fits is placed in the program area. -/
lemma run_loadRom (rom : Rom) (machine : Chip8.Machine) :
    loadRom rom.bytes machine.toRaw =
      .ok () ({ machine with memory := machine.memory.load rom } : Chip8.Machine).toRaw := by
  have fits := rom.fits
  have placed := setSlice_numbers (v := machine.memory.data)
    (by omega : 0x200 + rom.bytes.length ≤ 4096)
  push_cast at placed
  unfold loadRom
  rw [if_neg (by omega), run_modify, Machine.toRaw_memory, placed]
  rfl

/-- A larger one is refused. -/
lemma run_loadRom_of_tooLarge {rom : List UInt8} (large : 3584 < rom.length) (machine : Machine) :
    loadRom rom machine = .error (.error (.load { failure := .tooLarge rom.length })) machine := by
  unfold loadRom
  rw [if_pos large]
  rfl

lemma leaves_loadRom (rom : List UInt8) (machine : Chip8.Machine) :
    leaves (loadRom rom machine.toRaw) =
      (machine.remember ((Rom.ofBytes rom).map machine.memory.load)).toRaw := by
  unfold Rom.ofBytes
  by_cases fits : rom.length ≤ 3584
  · rw [dif_pos fits]
    exact congrArg leaves (run_loadRom { bytes := rom, fits } machine)
  · rw [run_loadRom_of_tooLarge (by omega), dif_neg fits]
    rfl

lemma leaves_assign (register : Processor.Special) (number : Int) (machine : Chip8.Machine) :
    leaves (assign register number machine.toRaw) =
      (machine.mapProcessor (·.assign register number)).toRaw := by
  cases register with
  | index => exact (@mirrors_setIndex 0 _ _ (toNat_ofInt16 number).symm).leaves machine
  | pc =>
    show leaves (jump number machine.toRaw) = _
    unfold jump
    rw [run_modify, ← toNat_ofInt16]
    rfl
  | delay =>
    show leaves ((modify _ : Program Unit) machine.toRaw) = _
    rw [run_modify, ← number_ofInt]
    rfl
  | sound =>
    show leaves ((modify _ : Program Unit) machine.toRaw) = _
    rw [run_modify, ← number_ofInt]
    rfl

/-- Writing numbers as a block, of which the low eight bits count. -/
lemma run_writeBytes_ofInt (address : Int) (data : List Int) (machine : Chip8.Machine) :
    writeBytes address data machine.toRaw =
      match machine.memory.writeBytes address (data.map .ofInt) with
      | .ok memory => .ok () ({ machine with memory } : Chip8.Machine).toRaw
      | .error cause => .error (.error (.fault { cause })) machine.toRaw := by
  have low : data.map (· % 256) = numbers (data.map .ofInt) := by
    rw [numbers, List.map_map]
    exact List.map_congr_left fun n _ => (number_ofInt n).symm
  -- Both write the low eight bits, so the numbers may be cut beforehand.
  have cut : writeBytes address data = writeBytes address (numbers (data.map .ofInt)) := by
    unfold writeBytes
    rw [numbers_mod, low]
  rw [cut]
  exact run_writeBytes _ _ _

lemma leaves_writeBytes (address : Int) (data : List Int) (machine : Chip8.Machine) :
    leaves (writeBytes address data machine.toRaw) =
      (machine.remember (machine.memory.writeBytes address (data.map .ofInt))).toRaw := by
  rw [run_writeBytes_ofInt]
  cases machine.memory.writeBytes address (data.map .ofInt) <;> rfl

/-- Writing a single number. -/
lemma run_write (address number : Int) (machine : Chip8.Machine) :
    write address number machine.toRaw =
      match machine.memory.write address (.ofInt number) with
      | .ok memory => .ok () ({ machine with memory } : Chip8.Machine).toRaw
      | .error cause => .error (.error (.fault { cause })) machine.toRaw := by
  have byte : 0 ≤ number % 256 ∧ number % 256 < 256 := by omega
  have one : (([UInt8.ofInt number].length : Nat) : Int) = 1 := rfl
  unfold write Memory.write Memory.writeBytes
  rw [run_bind, run_checkBlock, one]
  by_cases inside : Memory.Within address 1
  · obtain ⟨begins, ends⟩ := id inside
    obtain ⟨start, rfl⟩ := Int.eq_ofNat_of_zero_le begins
    rw [if_pos inside, if_pos inside]
    dsimp only
    rw [run_bind, run_get]
    dsimp only
    rw [run_bind, Machine.toRaw_memory, setByte, if_pos byte, ← number_ofInt,
      setItem_numbers (by omega), Vector.toList_set, ← Vector.toList_setIfInBounds]
    rfl
  · rw [if_neg inside, if_neg inside]

lemma leaves_write (address number : Int) (machine : Chip8.Machine) :
    leaves (write address number machine.toRaw) =
      (machine.remember (machine.memory.write address (.ofInt number))).toRaw := by
  rw [run_write]
  cases machine.memory.write address (.ofInt number) <;> rfl

lemma leaves_setKeys (states : List Bool) (machine : Chip8.Machine) :
    leaves (setKeys states machine.toRaw) = (machine.latch (Keypad.ofList states)).toRaw := by
  rw [run_setKeys]
  cases Keypad.ofList states <;> rfl

lemma leaves_setKey (reference : KeyReference) (isDown : Bool) (machine : Chip8.Machine) :
    leaves (setKey reference isDown machine.toRaw) =
      (machine.latch (reference.resolve.map (machine.keypad.set · isDown))).toRaw := by
  unfold setKey
  cases reference.resolve with
  | error misuse => rfl
  | ok key =>
    have inside : key.val < machine.keypad.down.toList.length := by
      rw [Vector.length_toList]
      exact key.isLt
    dsimp only
    rw [run_bind, run_get]
    dsimp only
    rw [run_bind, Machine.toRaw_keys, setItem_natCast inside, ← Vector.toList_set key.isLt]
    rfl

/-- What an operation leaves of a view is the view of what it leaves. -/
theorem toRaw_operate (machine : Chip8.Machine) (operation : Machine.Operation) :
    leaves (operate operation machine.toRaw) = (machine.operate operation).toRaw := by
  cases operation with
  | step => exact mirrors_step.leaves machine
  | cycle => exact mirrors_cycle.leaves machine
  | fetch =>
    rw [operate, run_bind, run_fetch]
    cases machine.fetch <;> rfl
  | tick => exact congrArg leaves (run_tick machine)
  | execute word => exact (mirrors_execute word).leaves machine
  | resetProcessor => rfl
  | assign register number => exact leaves_assign register number machine
  | assignV register number =>
    exact (@mirrors_setV 0 register _ _ (number_ofInt number).symm).leaves machine
  | write address number => exact leaves_write address number machine
  | writeBytes address data => exact leaves_writeBytes address data machine
  | loadRom rom => exact leaves_loadRom rom machine
  | resetMemory => exact congrArg leaves (run_resetMemory machine)
  | draw x y sprites wrap =>
    rw [operate, run_bind, run_draw]
    rfl
  | clearScreen => exact (@mirrors_clearScreen 0).leaves machine
  | acknowledge => rfl
  | setKeys states => exact leaves_setKeys states machine
  | setKey reference isDown => exact leaves_setKey reference isDown machine
  | releaseAll => rfl

/-- The raw machine that operations leave one after the other. -/
def operateAll (machine : Machine) (operations : List Machine.Operation) : Machine :=
  operations.foldl (fun machine operation => leaves (operate operation machine)) machine

theorem toRaw_operateAll (machine : Chip8.Machine) (operations : List Machine.Operation) :
    operateAll machine.toRaw operations = (machine.operateAll operations).toRaw := by
  -- By induction on the operations, from the machine that the first of them leaves.
  induction operations generalizing machine with
  | nil => rfl
  | cons operation rest ih =>
    rw [operateAll, List.foldl_cons, toRaw_operate]
    exact ih (machine.operate operation)

end Raw

/-! ## Sessions -/

/-- What a host can do to a debugger. -/
inductive Debugger.Operation
  | addBreakpoint (number : Int)
  | removeBreakpoint (number : Int)
  | clearBreakpoints
  | clearAll
  | requestStop
  | clearRequest
  | clearResume
  | clearLastStop
  | check (pc : Int)

/-- The debugger that an operation leaves. -/
def Debugger.operate (debugger : Debugger) : Debugger.Operation → Debugger
  | .addBreakpoint number => debugger.addBreakpoint number
  | .removeBreakpoint number => debugger.removeBreakpoint number
  | .clearBreakpoints => debugger.clearBreakpoints
  | .clearAll => .idle
  | .requestStop => debugger.requestStop
  | .clearRequest => debugger.clearRequest
  | .clearResume => debugger.clearResume
  | .clearLastStop => debugger.clearLastStop
  | .check pc => (debugger.check pc).2

/-- What a host can do to a session, also past it to the debugger and to the machine. -/
inductive Session.Operation
  | cycle (keys : Option (List Bool))
  | step
  | run (budget : Int) (untilKeyWait : Bool)
  | runUntil (address budget : Int)
  | reset
  | debugger (operation : Debugger.Operation)
  | machine (operation : Machine.Operation)
  /-- A step of the machine that the debugger may stop. -/
  | stepGated
  /-- A cycle of the machine that the debugger may stop. -/
  | cycleGated

namespace Session

/-- The session with what a gated call leaves. -/
def afterGated {α : Type} (session : Session)
    (outcome : EStateM.Result Fault (Machine × Debugger) α) : Session :=
  { session with machine := (leaves outcome).1, debugger := (leaves outcome).2 }

/-- The session that an operation leaves. -/
def operate (session : Session) : Operation → Session
  | .cycle keys => leaves (cycleWith keys session)
  | .step => leaves (step session)
  | .run budget untilKeyWait => leaves (run budget untilKeyWait session)
  | .runUntil address budget => leaves (runUntil address budget session)
  | .reset => session.reset
  | .debugger operation => session.mapDebugger (·.operate operation)
  | .machine operation => session.mapMachine (·.operate operation)
  | .stepGated => session.afterGated (Machine.stepGated gate (session.machine, session.debugger))
  | .cycleGated => session.afterGated (Machine.cycleGated gate (session.machine, session.debugger))

/-- The session that operations leave one after the other. -/
def operateAll (session : Session) (operations : List Operation) : Session :=
  operations.foldl operate session

end Session

namespace Raw.Session

/-- Carries an operation on the debugger out. -/
def operateDebugger : Debugger.Operation → Program Unit
  | .addBreakpoint number => modify (·.addBreakpoint number)
  | .removeBreakpoint number => modify (·.removeBreakpoint number)
  | .clearBreakpoints => modify ({ · with breakpoints := ∅ })
  | .clearAll => modify
    ({ · with breakpoints := ∅, stopRequested := false, lastStop := none, resumeAt := none })
  | .requestStop => modify ({ · with stopRequested := true })
  | .clearRequest => modify ({ · with stopRequested := false })
  | .clearResume => modify ({ · with resumeAt := none })
  | .clearLastStop => modify ({ · with lastStop := none })
  | .check pc => do let _ ← check pc

/-- Carries an operation out. -/
def operate : Chip8.Session.Operation → Program Unit
  | .cycle keys => do let _ ← cycleWith keys
  | .step => do let _ ← step
  | .run budget untilKeyWait => do let _ ← run budget untilKeyWait
  | .runUntil address budget => do let _ ← runUntil address budget
  | .reset => reset
  | .debugger operation => operateDebugger operation
  | .machine operation => onMachine (Raw.operate operation)
  | .stepGated => do let _ ← executeInstruction true
  | .cycleGated => do
    let admitted ← executeInstruction true
    if admitted then onMachine tick else return

/-- The raw session that operations leave one after the other. -/
def operateAll (session : Session) (operations : List Chip8.Session.Operation) : Session :=
  operations.foldl (fun session operation => leaves (operate operation session)) session

/-! ### On views -/

lemma run_onMachine_of {α : Type} {raw : Raw.Program α} {session : Chip8.Session} {answer : α}
    {machine : Chip8.Machine} (run : raw session.machine.toRaw = .ok answer machine.toRaw) :
    onMachine raw session.toRaw =
      .ok answer ({ session with machine } : Chip8.Session).toRaw := by
  unfold onMachine
  rw [Session.toRaw_machine, run]
  rfl

/-- Resetting part by part brings the whole back to power-on. -/
lemma run_reset (session : Chip8.Session) :
    reset session.toRaw = .ok () session.reset.toRaw := by
  have cleared (machine : Chip8.Machine) : clearScreen machine.toRaw =
      .ok () ({ machine with screen := .blank } : Chip8.Machine).toRaw := @mirrors_clearScreen 0 machine
  -- Each part is reset on the machine that the one before has left. Together they are power-on.
  unfold reset
  rw [run_bind, run_onMachine_of (run_resetMemory _)]
  dsimp only
  rw [run_bind, run_get]
  dsimp only
  rw [run_bind, Session.toRaw_rom, run_onMachine_of (run_loadRom session.rom _)]
  dsimp only
  rw [run_bind, run_onMachine_of (cleared _)]
  dsimp only
  rw [run_bind, run_onMachine_of (run_releaseAll _)]
  dsimp only
  rw [run_bind, run_onMachine_of (run_resetProcessor _)]
  rfl

/-- An answer that is not asked for changes nothing about what is left. -/
lemma leaves_discard {α : Type} {program : Program α} {session : Session} :
    leaves ((do let _ ← program : Program Unit) session) = leaves (program session) := by
  rw [run_bind]
  cases program session <;> rfl

lemma toRaw_operateDebugger (session : Chip8.Session) (operation : Debugger.Operation) :
    leaves (operateDebugger operation session.toRaw) =
      (session.mapDebugger (·.operate operation)).toRaw := by
  cases operation with
  | addBreakpoint number => exact (toRaw_addBreakpoint session number).symm
  | removeBreakpoint number => exact (toRaw_removeBreakpoint session number).symm
  | check pc =>
    rw [operateDebugger, leaves_discard, run_check]
    rfl
  | _ => rfl

/-- What an operation leaves of a view is the view of what it leaves. -/
theorem toRaw_operate (session : Chip8.Session) (operation : Chip8.Session.Operation) :
    leaves (operate operation session.toRaw) = (session.operate operation).toRaw := by
  cases operation with
  | cycle keys =>
    rw [operate, leaves_discard]
    exact (mirrors_cycleWith keys).leaves session
  | step =>
    rw [operate, leaves_discard]
    exact mirrors_step.leaves session
  | run budget untilKeyWait =>
    rw [operate, leaves_discard]
    exact (mirrors_run budget untilKeyWait).leaves session
  | runUntil address budget =>
    rw [operate, leaves_discard]
    exact (mirrors_runUntil address budget).leaves session
  | reset => exact congrArg leaves (run_reset session)
  | debugger operation => exact toRaw_operateDebugger session operation
  | machine operation =>
    -- Past the debugger, the operation fails or succeeds on the machine alone.
    have left := Raw.toRaw_operate session.machine operation
    show leaves (onMachine (Raw.operate operation) session.toRaw) = _
    unfold onMachine
    rw [Session.toRaw_machine]
    cases h : Raw.operate operation session.machine.toRaw with
    | ok answer machine =>
      rw [h] at left
      obtain rfl : machine = _ := left
      rfl
    | error trouble machine =>
      rw [h] at left
      obtain rfl : machine = _ := left
      rfl
  | stepGated =>
    rw [operate, leaves_discard, run_executeInstruction, if_pos rfl,
      Chip8.Session.operate, Session.afterGated, Machine.stepGated]
    rcases session.machine.ask Session.gate session.debugger with ⟨_ | _, debugger⟩
    · rfl
    · dsimp only
      cases session.machine.step <;> rfl
  | cycleGated =>
    rw [operate, run_bind, run_executeInstruction, if_pos rfl,
      Chip8.Session.operate, Session.afterGated, Machine.cycleGated, run_bind, Machine.stepGated]
    rcases session.machine.ask Session.gate session.debugger with ⟨_ | _, debugger⟩
    · rfl
    · dsimp only
      cases session.machine.step with
      | error fault machine => rfl
      | ok answer machine =>
        dsimp only
        rw [if_pos rfl, run_onMachine_of (run_tick machine)]
        rfl

/-- What operations leave of a view is the view of what they leave. -/
theorem toRaw_operateAll (session : Chip8.Session) (operations : List Chip8.Session.Operation) :
    session.toRaw.operateAll operations = (session.operateAll operations).toRaw := by
  induction operations generalizing session with
  | nil => rfl
  | cons operation rest ih =>
    rw [operateAll, List.foldl_cons, toRaw_operate]
    exact ih (session.operate operation)

end Raw.Session

end Chip8
