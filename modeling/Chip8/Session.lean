import Chip8.Debugger
import Chip8.Machine.Cycle

/-!
# Sessions

A session is a machine under a debugger, together with the image it was started with and two
counters: the cycles completed since the start, and those since the timers were last counted down.
A cycle that the debugger stops, or that faults, is not counted.
-/

namespace Chip8

/-- How a session is set up. -/
structure Settings where
  romPath : Option String := none
  spritesWrap : Bool := false
  cyclesPerTick : Int := 1
deriving DecidableEq, Repr

/-- The image that some bytes are. The path, if they were read from a file, goes into the error when
they are none. -/
def Rom.ofFile (path : Option String) (bytes : List UInt8) : Except Error Rom :=
  match Rom.ofBytes bytes with
  | .ok rom => .ok rom
  | .error failure => .error (.load { failure, path })

/-- A machine under a debugger. -/
structure Session where
  rom : Rom
  cyclesPerTick : Nat
  cyclesPerTick_pos : 0 < cyclesPerTick
  machine : Machine
  debugger : Debugger
  cycles : Nat
  sinceTick : Nat

namespace Session

/-! ## Starting -/

/-- Starts a session with the image that was read, unless reading it has failed. -/
def start (settings : Settings) (random : RandomSource)
    (image : Except Error (List UInt8)) : Except Error Session :=
  if h : settings.cyclesPerTick < 1 then
    .error (.misuse (.timerDivisor settings.cyclesPerTick))
  else
    match image.bind (Rom.ofFile settings.romPath) with
    | .error error => .error error
    | .ok rom => .ok {
        rom
        cyclesPerTick := settings.cyclesPerTick.toNat
        cyclesPerTick_pos := by omega
        machine := .powerOn rom random settings.spritesWrap
        debugger := .idle
        cycles := 0
        sinceTick := 0 }

/-- Brings the machine back to power-on. The source of random bytes goes on where it is, and
breakpoints and the last report stay. -/
def reset (session : Session) : Session :=
  { session with
    machine := .powerOn session.rom session.machine.random session.machine.spritesWrap
    debugger := session.debugger.clearRequest.clearResume
    cycles := 0
    sinceTick := 0 }

/-! ## Changing the parts -/

/-- Changes the machine. -/
def mapMachine (session : Session) (f : Machine → Machine) : Session :=
  { session with machine := f session.machine }

/-- Changes the debugger. -/
def mapDebugger (session : Session) (f : Debugger → Debugger) : Session :=
  { session with debugger := f session.debugger }

/-- The program counter. -/
def pc (session : Session) : UInt16 := session.machine.processor.pc

/-- The state in one line, for a log. -/
def summary (session : Session) : String :=
  s!"Emulator(rom={session.rom.bytes.length} bytes, pc=" ++ Numeral.word session.pc.toNat ++
    s!", cycles={session.cycles})"

/-! ## One cycle -/

/-- Counts a completed cycle, and counts the timers down when it is time. -/
def completeCycle (session : Session) : Session :=
  if session.cyclesPerTick ≤ session.sinceTick + 1 then
    { session with
      machine := session.machine.tick
      cycles := session.cycles + 1
      sinceTick := 0 }
  else
    { session with
      cycles := session.cycles + 1
      sinceTick := session.sinceTick + 1 }

/-- The debugger as the gate of the machine. -/
def gate : Machine.Gate Debugger := fun pc _ debugger => debugger.check pc.toNat

/-- Runs one cycle unless the debugger stops it, and says whether it was run. -/
def cycle : EStateM Fault Session Bool
  | ⟨rom, cyclesPerTick, positive, machine, debugger, cycles, sinceTick⟩ =>
    match Machine.stepGated gate (machine, debugger) with
    | .ok completed (machine, debugger) =>
      let session := ⟨rom, cyclesPerTick, positive, machine, debugger, cycles, sinceTick⟩
      .ok completed (if completed then session.completeCycle else session)
    | .error fault (machine, debugger) =>
      .error fault ⟨rom, cyclesPerTick, positive, machine, debugger, cycles, sinceTick⟩

/-- Runs one cycle without asking the debugger. -/
def cycleUnchecked : EStateM Fault Session Unit
  | ⟨rom, cyclesPerTick, positive, machine, debugger, cycles, sinceTick⟩ =>
    match machine.step with
    | .ok () machine =>
      .ok () (completeCycle
        ⟨rom, cyclesPerTick, positive, machine, debugger, cycles, sinceTick⟩)
    | .error fault machine =>
      .error fault ⟨rom, cyclesPerTick, positive, machine, debugger, cycles, sinceTick⟩

end Session

end Chip8
