import Chip8.Debugger.AddressSet
import Chip8.Debugger.StopEvent

/-!
# The debugger

The debugger is asked before every instruction and may stop it: because the host has asked for a
stop, or because there is a breakpoint at its address. A breakpoint that has stopped the program
lets it pass at the next question, so that the run can be resumed; any other question in between
makes it stop again. A stop asked for by the host comes first and leaves this as it is.
-/

namespace Chip8

/-- Breakpoints, and what has been asked and reported. -/
structure Debugger where
  breakpoints : AddressSet
  stopRequested : Bool
  /-- The breakpoint that has just stopped the program and is passed next time. -/
  resumeAt : Option (Fin 4096)
  lastStop : Option StopEvent
deriving DecidableEq

namespace Debugger

/-- A debugger with nothing set and nothing reported. -/
def idle : Debugger where
  breakpoints := .empty
  stopRequested := false
  resumeAt := none
  lastStop := none

/-! ## Breakpoints -/

/-- Whether there is a breakpoint at the address that a number stands for. -/
def hasBreakpoint (debugger : Debugger) (number : Int) : Bool :=
  debugger.breakpoints.contains (AddressSet.reduce number)

/-- Sets a breakpoint at the address that a number stands for. -/
def addBreakpoint (debugger : Debugger) (number : Int) : Debugger :=
  { debugger with breakpoints := debugger.breakpoints.insert (AddressSet.reduce number) }

/-- Removes the breakpoint at the address that a number stands for. -/
def removeBreakpoint (debugger : Debugger) (number : Int) : Debugger :=
  { debugger with breakpoints := debugger.breakpoints.erase (AddressSet.reduce number) }

/-- Removes all breakpoints and nothing else. -/
def clearBreakpoints (debugger : Debugger) : Debugger :=
  { debugger with breakpoints := .empty }

/-! ## Requests and reports -/

/-- Asks for a stop before the next instruction. -/
def requestStop (debugger : Debugger) : Debugger :=
  { debugger with stopRequested := true }

/-- Takes a request for a stop back. -/
def clearRequest (debugger : Debugger) : Debugger :=
  { debugger with stopRequested := false }

/-- Forgets which breakpoint has just stopped the program, so that it stops it again. -/
def clearResume (debugger : Debugger) : Debugger :=
  { debugger with resumeAt := none }

/-- Forgets the last report. -/
def clearLastStop (debugger : Debugger) : Debugger :=
  { debugger with lastStop := none }

/-! ## The question before an instruction -/

/-- The report of a stop that the host asked for. -/
def interruptAt (pc : Int) : StopEvent where
  reason := .interrupt
  address := some pc
  message := "User interrupt"

/-- The report of a stop at a breakpoint. -/
def breakpointAt (pc : Int) : StopEvent where
  reason := .breakpoint
  address := some pc
  message := StopEvent.breakpointText pc

/-- Decides whether the instruction at an address may be executed. -/
def check (debugger : Debugger) (pc : Int) : Bool × Debugger :=
  if debugger.stopRequested then
    (false, { debugger with stopRequested := false, lastStop := some (interruptAt pc) })
  else
    match debugger.breakpoints.find? pc with
    | none => (true, debugger.clearResume)
    | some address =>
      if debugger.resumeAt = some address then (true, debugger.clearResume)
      else (false, { debugger with resumeAt := some address, lastStop := some (breakpointAt pc) })

end Debugger

end Chip8
