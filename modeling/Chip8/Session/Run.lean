import Chip8.Session

/-!
# Runs

A run is a number of cycles, cut short when the debugger stops the program and, on request, when
the program begins to wait for a key. Every run says why it ended.
-/

namespace Chip8.Session

/-- The report of a single step. -/
def stepEvent (session : Session) : StopEvent where
  reason := .step
  address := some session.pc.toNat
  message := "Step at " ++ Numeral.word session.pc.toNat

/-- The report of a run that used all its cycles. -/
def budgetEvent (session : Session) (budget : Int) : StopEvent where
  reason := .budget
  address := some session.pc.toNat
  message := "Reached max cycles (" ++ Numeral.decimal budget ++ ")"

/-- The report of a run that ended because the program waits for a key. -/
def keyWaitEvent (session : Session) : StopEvent where
  reason := .keyWait
  address := some session.pc.toNat

/-- Runs one cycle, whatever the debugger would say. If it completes, the breakpoint that has just
stopped the program stops it again at its next visit. -/
def step : EStateM Fault Session StopEvent := do
  cycleUnchecked
  modify (·.mapDebugger .clearResume)
  return (← get).stepEvent

/-- Runs up to a number of cycles. Gives the reason if the run is cut short. -/
def runCycles (untilKeyWait : Bool) : Nat → EStateM Fault Session (Option StopEvent)
  | 0 => pure none
  | budget + 1 => do
    if ← cycle then
      let session ← get
      if untilKeyWait && session.machine.isWaiting then return some session.keyWaitEvent
      else runCycles untilKeyWait budget
    else return (← get).debugger.lastStop

/-- Runs up to a number of cycles, none if the number is negative, and says why the run ended. -/
def run (budget : Int) (untilKeyWait : Bool) : EStateM Fault Session StopEvent := do
  modify (·.mapDebugger .clearLastStop)
  match ← runCycles untilKeyWait budget.toNat with
  | some event => return event
  | none => return (← get).budgetEvent budget

/-- Runs until the program counter reaches an address, with a breakpoint that is removed
afterwards unless it was there before. Says whether that breakpoint ended the run. -/
def runUntil (address budget : Int) : EStateM Fault Session Bool := fun session =>
  let wasSet := session.debugger.hasBreakpoint address
  let restore (session : Session) : Session :=
    if wasSet then session else session.mapDebugger (·.removeBreakpoint address)
  match run budget false (session.mapDebugger (·.addBreakpoint address)) with
  | .ok event session =>
    .ok (event.reason = .breakpoint ∧ event.address = some address) (restore session)
  | .error fault session => .error fault (restore session)

end Chip8.Session
