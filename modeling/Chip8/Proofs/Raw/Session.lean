import Chip8.Proofs.Raw.Cycle
import Chip8.Session.Run

/-!
# Sessions of the raw machine

A raw machine under a debugger whose breakpoints are a set of integers. The debugger is asked after
the instruction word has been read and before it is executed; single steps ask nobody.
-/

namespace Chip8.Raw

/-- A raw machine under a debugger. -/
structure Session where
  rom : List UInt8
  cyclesPerTick : Int
  machine : Machine
  breakpoints : Finset Int
  stopRequested : Bool
  resumeAt : Option Int
  lastStop : Option StopEvent
  cycles : Int
  sinceTick : Int

/-- A program on a session. -/
abbrev Session.Program (α : Type) := EStateM Trouble Session α

namespace Session

/-- Runs a program on the machine of a session. -/
def onMachine {α : Type} (program : Raw.Program α) : Program α := fun session =>
  match program session.machine with
  | .ok answer machine => .ok answer { session with machine }
  | .error trouble machine => .error trouble { session with machine }

/-! ## The debugger -/

/-- Whether there is a breakpoint at the low twelve bits of a number. -/
def hasBreakpoint (session : Session) (number : Int) : Bool :=
  number % 4096 ∈ session.breakpoints

/-- Sets a breakpoint at the low twelve bits of a number. -/
def addBreakpoint (session : Session) (number : Int) : Session :=
  { session with breakpoints := insert (number % 4096) session.breakpoints }

/-- Removes the breakpoint at the low twelve bits of a number. -/
def removeBreakpoint (session : Session) (number : Int) : Session :=
  { session with breakpoints := session.breakpoints.erase (number % 4096) }

/-- Decides whether the instruction at an address may be executed. -/
def check (pc : Int) : Program Bool := do
  let session ← get
  if session.stopRequested then
    set { session with stopRequested := false, lastStop := some (Debugger.interruptAt pc) }
    return false
  else if pc ∈ session.breakpoints then
    if session.resumeAt = some pc then
      set { session with resumeAt := none }
      return true
    else
      set { session with resumeAt := some pc, lastStop := some (Debugger.breakpointAt pc) }
      return false
  else
    set { session with resumeAt := none }
    return true

/-! ## Running -/

/-- Executes one instruction, or polls the keypad, and says whether the debugger let it. -/
def executeInstruction (asks : Bool) : Program Bool := do
  if (← get).machine.awaitsKey then
    onMachine pollKey
    return true
  else
    let pc := (← get).machine.pc
    let word ← onMachine fetch
    let admitted ← if asks then check pc else pure true
    if admitted then
      onMachine (executeAt pc word)
      return true
    else return false

/-- Counts a completed cycle, and counts the timers down when it is time. -/
def completeCycle : Program Unit := do
  modify fun session =>
    { session with cycles := session.cycles + 1, sinceTick := session.sinceTick + 1 }
  let session ← get
  if session.cyclesPerTick ≤ session.sinceTick then
    set { session with sinceTick := 0 }
    onMachine tick
  else return

/-- Runs one cycle and says whether the debugger let it. -/
def cycle (asks : Bool) : Program Bool := do
  let completed ← executeInstruction asks
  if completed then
    completeCycle
    return true
  else return false

/-- Sets all keys if they are given, and runs one cycle. -/
def cycleWith (keys : Option (List Bool)) : Program Bool := do
  if let some states := keys then onMachine (setKeys states)
  cycle true

/-- The report of a stop at the program counter. -/
def eventAt (session : Session) (reason : StopReason) (message : String) : StopEvent where
  reason
  address := some session.machine.pc
  message

/-- Runs one cycle, whatever the debugger would say. -/
def step : Program StopEvent := do
  let _ ← cycle false
  modify ({ · with resumeAt := none })
  let session ← get
  return session.eventAt .step ("Step at " ++ Numeral.word session.machine.pc)

/-- Runs up to a number of cycles. Gives the reason if the run is cut short. -/
def runCycles (untilKeyWait : Bool) : Nat → Program (Option StopEvent)
  | 0 => return none
  | budget + 1 => do
    if ← cycle true then
      let session ← get
      if untilKeyWait && session.machine.awaitsKey then return some (session.eventAt .keyWait "")
      else runCycles untilKeyWait budget
    else return (← get).lastStop

/-- Runs up to a number of cycles and says why the run ended. -/
def run (budget : Int) (untilKeyWait : Bool) : Program StopEvent := do
  modify ({ · with lastStop := none })
  match ← runCycles untilKeyWait budget.toNat with
  | some event => return event
  | none =>
    return (← get).eventAt .budget ("Reached max cycles (" ++ Numeral.decimal budget ++ ")")

/-- Runs until the program counter reaches an address, with a breakpoint that is set and removed
unless it was there before. -/
def runUntil (address budget : Int) : Program Bool := fun session =>
  let wasSet := session.hasBreakpoint address
  let prepared := if wasSet then session else session.addBreakpoint address
  let restore (session : Session) : Session :=
    if wasSet then session else session.removeBreakpoint address
  match run budget false prepared with
  | .ok event session =>
    .ok (event.reason = .breakpoint ∧ event.address = some address) (restore session)
  | .error trouble session => .error trouble (restore session)

/-! ## Starting -/

/-- Brings the machine back to power-on, and forgets requests and counts. -/
def reset : Program Unit := do
  onMachine resetMemory
  onMachine (loadRom (← get).rom)
  onMachine clearScreen
  onMachine releaseAll
  onMachine resetProcessor
  modify ({ · with cycles := 0, sinceTick := 0, stopRequested := false, resumeAt := none })

/-- Starts a session with an image. -/
def start (settings : Settings) (random : RandomSource) (rom : List UInt8) :
    Except Trouble Session :=
  if settings.cyclesPerTick < 1 then
    .error (.error (.misuse (.timerDivisor settings.cyclesPerTick)))
  else
    match Machine.powerOn rom random settings.spritesWrap with
    | .error (.error (.load { failure, .. })) =>
      .error (.error (.load { failure, path := settings.romPath }))
    | .error trouble => .error trouble
    | .ok machine => .ok {
        rom
        cyclesPerTick := settings.cyclesPerTick
        machine
        breakpoints := ∅
        stopRequested := false
        resumeAt := none
        lastStop := none
        cycles := 0
        sinceTick := 0 }

end Session

end Chip8.Raw
