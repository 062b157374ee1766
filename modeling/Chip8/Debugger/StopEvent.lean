import Chip8.Text.Numeral

/-!
# Stop events

Why and where a run stopped. An event may bring its own message; otherwise its reason is put into
words.
-/

namespace Chip8

/-- Why a run stopped. -/
inductive StopReason
  | unspecified
  /-- The program counter reached a breakpoint. -/
  | breakpoint
  /-- One instruction was executed, as asked. -/
  | step
  /-- The host asked for a stop. -/
  | interrupt
  /-- All cycles that the run was given have been used. -/
  | budget
  /-- The program waits for a key. -/
  | keyWait
deriving DecidableEq, Repr

/-- Why a run stopped, where, and what is to be said about it. -/
structure StopEvent where
  reason : StopReason
  address : Option Int := none
  message : String := ""
deriving DecidableEq, Repr

namespace StopEvent

/-- The words for a breakpoint. -/
def breakpointText (address : Int) : String :=
  "Breakpoint at " ++ Numeral.word address

/-- The event in words. -/
def text (event : StopEvent) : String :=
  if event.message ≠ "" then event.message
  else
    match event.reason, event.address with
    | .breakpoint, some address => breakpointText address
    | .breakpoint, none => "Breakpoint"
    | .step, _ => "Single step"
    | .interrupt, _ => "User interrupt"
    | .budget, _ => "Maximum cycles reached"
    | .keyWait, _ => "Waiting for key"
    | .unspecified, _ => "Unknown"

end StopEvent

end Chip8
