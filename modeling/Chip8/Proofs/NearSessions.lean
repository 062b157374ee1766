import Chip8.Proofs.Chronicle
import Chip8.Proofs.Leeway

/-!
# Sessions that differ within a leeway

Two sessions are near each other if they have the same image and the same counters, near machines and
debuggers that agree on everything but their last reports (`Near`). The last reports agree as soon as
something has been reported or forgotten on both sides. Until then nobody asks for them.

What near sessions do to their machines is the same, so whatever a host does with both, they respond
alike and stay near (`near_respond`, `near_operateAll`), as long as the sprites that are drawn on the
way come out the same under every policy within the leeway, and the random bytes from every source
(`Settles`). They also answer every command alike.
-/

namespace Chip8

variable {told : Prop} {leeway : Leeway}

/-! ## Debuggers -/

/-- The debuggers differ in nothing but their last reports, and not in these either if both have been
told the same. -/
structure Debugger.Alike (told : Prop) (left right : Debugger) : Prop where
  breakpoints : right.breakpoints = left.breakpoints
  stopRequested : right.stopRequested = left.stopRequested
  resumeAt : right.resumeAt = left.resumeAt
  lastStop : told → right.lastStop = left.lastStop

namespace Debugger

variable {left right : Debugger}

/-- Whether an operation replaces the last report or forgets it. -/
def renews (debugger : Debugger) : Operation → Bool
  | .clearAll | .clearLastStop => true
  | .check pc => !(debugger.check pc).1
  | _ => false

lemma Alike.mono {told' : Prop} (weakens : told' → told) (alike : Alike told left right) :
    Alike told' left right :=
  ⟨alike.breakpoints, alike.stopRequested, alike.resumeAt, fun told' => alike.lastStop (weakens told')⟩

/-- What does not renew the last report tells nobody anything. -/
lemma Alike.untold (alike : Alike told left right) : Alike (told ∨ false = true) left right :=
  alike.mono fun
    | .inl told => told
    | .inr never => by cases never

/-- Forgetting the last report leaves nothing in which the debuggers differ. -/
lemma Alike.clearLastStop (alike : Alike told left right) :
    Alike True left.clearLastStop right.clearLastStop :=
  ⟨alike.breakpoints, alike.stopRequested, alike.resumeAt, fun _ => rfl⟩

/-- Debuggers that have been told the same are the same. -/
lemma Alike.eq (alike : Alike True left right) : right = left := by
  obtain ⟨breakpoints, stopRequested, resumeAt, lastStop⟩ := alike
  cases left
  cases right
  simp_all

/-- Both give the same answer. If they refuse they report the same. -/
lemma Alike.check (alike : Alike told left right) (pc : Int) :
    (right.check pc).1 = (left.check pc).1 ∧
      Alike (told ∨ (left.check pc).1 = false) (left.check pc).2 (right.check pc).2 := by
  obtain ⟨breakpoints, stopRequested, resumeAt, lastStop⟩ := alike
  have kept : told ∨ true = false → right.lastStop = left.lastStop := fun
    | .inl told => lastStop told
    | .inr never => by cases never
  unfold Debugger.check
  rw [breakpoints, stopRequested, resumeAt]
  split
  · exact ⟨rfl, rfl, rfl, rfl, fun _ => rfl⟩
  · split
    · exact ⟨rfl, breakpoints, stopRequested, rfl, kept⟩
    · split
      · exact ⟨rfl, breakpoints, stopRequested, rfl, kept⟩
      · exact ⟨rfl, rfl, rfl, rfl, fun _ => rfl⟩

lemma Alike.respond_eq (alike : Alike told left right) (operation : Operation) :
    right.respond operation = left.respond operation := by
  cases operation
  case check pc => exact congrArg Reply.truth (alike.check pc).1
  all_goals rfl

lemma Alike.operate (alike : Alike told left right) (operation : Operation) :
    Alike (told ∨ left.renews operation = true) (left.operate operation)
      (right.operate operation) := by
  have ⟨breakpoints, stopRequested, resumeAt, lastStop⟩ := alike
  cases operation
  case addBreakpoint number =>
    exact Alike.untold ⟨congrArg (AddressSet.insert · _) breakpoints, stopRequested, resumeAt,
      lastStop⟩
  case removeBreakpoint number =>
    exact Alike.untold ⟨congrArg (AddressSet.erase · _) breakpoints, stopRequested, resumeAt,
      lastStop⟩
  case clearBreakpoints => exact Alike.untold ⟨rfl, stopRequested, resumeAt, lastStop⟩
  case clearAll => exact ⟨rfl, rfl, rfl, fun _ => rfl⟩
  case requestStop => exact Alike.untold ⟨breakpoints, rfl, resumeAt, lastStop⟩
  case clearRequest => exact Alike.untold ⟨breakpoints, rfl, resumeAt, lastStop⟩
  case clearResume => exact Alike.untold ⟨breakpoints, stopRequested, rfl, lastStop⟩
  case clearLastStop => exact alike.clearLastStop.mono fun _ => trivial
  case check pc =>
    refine (alike.check pc).2.mono fun cause => cause.imp_right ?_
    intro refused
    simpa [renews] using refused

end Debugger

/-! ## Along a run -/

namespace Machine

/-- Something holds of every operation and of the machine that it finds. -/
def Throughout (holds : Machine → Operation → Prop) : Machine → List Operation → Prop
  | _, [] => True
  | machine, operation :: rest =>
    holds machine operation ∧ Throughout holds (machine.operate operation) rest

variable {holds : Machine → Operation → Prop}

instance [∀ machine operation, Decidable (holds machine operation)] :
    ∀ machine operations, Decidable (Throughout holds machine operations)
  | _, [] => .isTrue trivial
  | machine, operation :: rest =>
    have : Decidable (Throughout holds (machine.operate operation) rest) :=
      instDecidableThroughout (machine.operate operation) rest
    inferInstanceAs (Decidable (holds machine operation ∧ _))

lemma throughout_append {machine : Machine} {earlier later : List Operation} :
    Throughout holds machine (earlier ++ later) ↔
      Throughout holds machine earlier ∧ Throughout holds (machine.operateAll earlier) later := by
  induction earlier generalizing machine with
  | nil => simp [Throughout, operateAll]
  | cons operation rest ih =>
    show holds machine operation ∧ Throughout holds (machine.operate operation) (rest ++ later) ↔ _
    rw [ih, ← and_assoc]
    rfl

lemma Throughout.mono {weaker : Machine → Operation → Prop}
    (weakens : ∀ machine operation, holds machine operation → weaker machine operation)
    {machine : Machine} {operations : List Operation}
    (throughout : Throughout holds machine operations) : Throughout weaker machine operations := by
  induction operations generalizing machine with
  | nil => trivial
  | cons operation rest ih => exact ⟨weakens _ _ throughout.1, ih throughout.2⟩

lemma throughout_of_forall (always : ∀ machine operation, holds machine operation)
    (machine : Machine) (operations : List Operation) : Throughout holds machine operations := by
  induction operations generalizing machine with
  | nil => trivial
  | cons operation rest ih => exact ⟨always _ _, ih _⟩

/-- An instruction that draws a sprite, which it has read, does not fault. -/
lemma fault?_of_sprite? {machine : Machine} {instruction : Instruction}
    {drawn : UInt8 × UInt8 × List UInt8} (draws : machine.sprite? instruction = some drawn) :
    instruction.fault? machine = none := by
  cases instruction
  case draw x y height =>
    unfold sprite? Memory.readBytes at draws
    simp only [within_index_iff] at draws
    show machine.blockFault? height = none
    unfold blockFault?
    by_cases inside : machine.processor.index.toNat + height ≤ 4096
    · rw [if_pos inside]
    · rw [if_neg inside] at draws
      cases draws
  all_goals cases draws

/-- A step only faults if the instruction that it performs does. -/
lemma fault?_of_step_error {machine after : Machine} {fault : Fault} {instruction : Instruction}
    (stepped : machine.step = .error fault after)
    (performed : machine.performed? .step = some instruction) :
    instruction.fault? machine ≠ none := by
  have faults := (step_eq_error_iff.1 stepped).1
  obtain ⟨word, upcoming, rfl⟩ := Option.map_eq_some_iff.1 performed
  obtain ⟨runs, fetched⟩ := upcoming?_eq_some_iff.1 upcoming
  intro none
  simp [Machine.fault?, runs, fetched, none] at faults

/-- A step that faults draws nothing and takes no random byte, so there is nothing to settle. -/
lemma settles_of_error {machine after : Machine} {fault : Fault}
    (stepped : machine.step = .error fault after) : machine.Settles leeway .step where
  drawing x y sprite wrap drawn _ := by
    obtain ⟨instruction, performed, draws⟩ := Option.bind_eq_some_iff.1 drawn
    exact absurd (fault?_of_sprite? draws) (fault?_of_step_error stepped performed)
  byte _ _ _ performed _ := absurd rfl (fault?_of_step_error stepped performed)

end Machine

/-! ## Sessions -/

namespace Session

/-- The sessions differ no further than the leeway allows and in their last reports, and not in these
either if both have been told the same. -/
structure Near (leeway : Leeway) (told : Prop) (left right : Session) : Prop where
  rom : right.rom = left.rom
  cyclesPerTick : right.cyclesPerTick = left.cyclesPerTick
  machine : left.machine.Near leeway right.machine
  debugger : left.debugger.Alike told right.debugger
  cycles : right.cycles = left.cycles
  sinceTick : right.sinceTick = left.sinceTick

/-- Whether the debugger stops the next cycle. -/
def isStopped (session : Session) : Bool := !(session.machine.ask gate session.debugger).1

/-- Whether an operation replaces the last report or forgets it. -/
def renews (session : Session) : Operation → Bool
  | .run _ _ | .runUntil _ _ => true
  | .cycle keys => match session.keypadFor keys with
    | .ok keypad => (session.withKeypad keypad).isStopped
    | .error _ => false
  | .stepGated | .cycleGated => session.isStopped
  | .debugger operation => session.debugger.renews operation
  | _ => false

/-- Whether one of several operations does. -/
def renewsAny : Session → List Operation → Bool
  | _, [] => false
  | session, operation :: rest =>
    session.renews operation || renewsAny (session.operate operation) rest

section
variable {left right : Session}

lemma Near.mono {told' : Prop} (weakens : told' → told) (near : Near leeway told left right) :
    Near leeway told' left right :=
  { near with debugger := near.debugger.mono weakens }

lemma Near.untold (near : Near leeway told left right) :
    Near leeway (told ∨ false = true) left right :=
  { near with debugger := near.debugger.untold }

lemma Near.pc (near : Near leeway told left right) : right.pc = left.pc := near.machine.pc

/-- Near sessions that have been told the same differ in their machines at most. -/
lemma Near.eq_mapMachine (near : Near leeway True left right) {f : Machine → Machine}
    (machine : right.machine = f left.machine) : right = left.mapMachine f := by
  have debugger := near.debugger.eq
  obtain ⟨rom, cyclesPerTick, _, _, _, cycles, sinceTick⟩ := right
  obtain rfl := near.rom
  obtain rfl := near.cyclesPerTick
  obtain rfl := near.cycles
  obtain rfl := near.sinceTick
  unfold mapMachine
  dsimp only at debugger machine
  rw [debugger, machine]

/-- Near sessions stay near if their machines and their debuggers do. -/
lemma Near.withParts {told' : Prop} {machine machine' : Machine} {debugger debugger' : Debugger}
    (near : Near leeway told left right) (nearby : machine.Near leeway machine')
    (same : debugger.Alike told' debugger') :
    Near leeway told' { left with machine, debugger }
      { right with machine := machine', debugger := debugger' } :=
  ⟨near.rom, near.cyclesPerTick, nearby, same, near.cycles, near.sinceTick⟩

lemma Near.mapDebugger {told' : Prop} (near : Near leeway told left right) (f : Debugger → Debugger)
    (same : (f left.debugger).Alike told' (f right.debugger)) :
    Near leeway told' (left.mapDebugger f) (right.mapDebugger f) :=
  { near with debugger := same }

lemma Near.operateDebugger (near : Near leeway told left right) (operation : Debugger.Operation) :
    Near leeway (told ∨ left.debugger.renews operation = true)
      (left.mapDebugger (·.operate operation)) (right.mapDebugger (·.operate operation)) :=
  near.mapDebugger _ (near.debugger.operate operation)

lemma Near.clearResume (near : Near leeway told left right) :
    Near leeway told (left.mapDebugger .clearResume) (right.mapDebugger .clearResume) :=
  near.mapDebugger _ ⟨near.debugger.breakpoints, near.debugger.stopRequested, rfl,
    near.debugger.lastStop⟩

lemma Near.withKeypad (near : Near leeway told left right) (keypad : Keypad) :
    Near leeway told (left.withKeypad keypad) (right.withKeypad keypad) :=
  { near with machine := near.machine.map ({ · with keypad }) fun _ _ => rfl }

/-- The keys that are set are the same. -/
lemma Near.keypadFor (near : Near leeway told left right) (keys : Option (List Bool)) :
    right.keypadFor keys = left.keypadFor keys := by
  cases keys with
  | some states => rfl
  | none =>
    unfold Session.keypadFor
    rw [near.machine.keypad]

lemma Near.completeCycle (near : Near leeway told left right) :
    Near leeway told left.completeCycle right.completeCycle := by
  have counted : right.cycles + 1 = left.cycles + 1 := by rw [near.cycles]
  unfold Session.completeCycle
  by_cases due : left.cyclesPerTick ≤ left.sinceTick + 1
  · have due' : right.cyclesPerTick ≤ right.sinceTick + 1 := by
      rwa [near.cyclesPerTick, near.sinceTick]
    rw [if_pos due, if_pos due']
    exact { near with
      machine := near.machine.map (·.tick) fun _ _ => rfl
      cycles := counted
      sinceTick := rfl }
  · have due' : ¬right.cyclesPerTick ≤ right.sinceTick + 1 := by
      rwa [near.cyclesPerTick, near.sinceTick]
    rw [if_neg due, if_neg due']
    exact { near with
      cycles := counted
      sinceTick := congrArg (· + 1) near.sinceTick }

/-- Resetting keeps the last reports as they are. -/
lemma Near.reset (kept : leeway.IsKept) (near : Near leeway told left right) :
    Near leeway told left.reset right.reset where
  rom := near.rom
  cyclesPerTick := near.cyclesPerTick
  machine := by
    unfold Session.reset
    rw [near.rom]
    exact ⟨rfl, kept.stack.refl _, kept.memory.refl _, near.machine.random,
      near.machine.spritesWrap⟩
  debugger := ⟨near.debugger.breakpoints, rfl, rfl, near.debugger.lastStop⟩
  cycles := rfl
  sinceTick := rfl

/-- Their debuggers are asked the same, and answer the same. -/
lemma Near.ask (near : Near leeway told left right)
    (whole : ∀ {memory memory'}, leeway.memory memory memory' → memory' = memory) :
    ∃ admitted debugger debugger', left.machine.ask gate left.debugger = (admitted, debugger) ∧
      right.machine.ask gate right.debugger = (admitted, debugger') ∧
      debugger.Alike (told ∨ left.isStopped = true) debugger' := by
  unfold isStopped Machine.ask
  rw [near.machine.upcoming? whole, near.machine.pc]
  cases left.machine.upcoming? with
  | none => exact ⟨true, left.debugger, right.debugger, rfl, rfl, near.debugger.untold⟩
  | some word =>
    obtain ⟨same, checked⟩ := near.debugger.check left.machine.processor.pc.toNat
    dsimp only [gate]
    generalize left.debugger.check left.machine.processor.pc.toNat = answer at same checked
    generalize right.debugger.check left.machine.processor.pc.toNat = answer' at same checked
    obtain ⟨admitted, debugger⟩ := answer
    obtain ⟨admitted', debugger'⟩ := answer'
    obtain rfl : admitted' = admitted := same
    refine ⟨admitted', debugger, debugger', rfl, rfl, checked.mono fun cause => ?_⟩
    exact cause.imp_right fun stopped => by simpa using stopped

end

/-! ## Cycles -/

/-- What a cycle that completes does includes its step. -/
lemma step_of_cycleWork {session : Session} {holds : Machine → Machine.Operation → Prop}
    (throughout : session.machine.Throughout holds session.cycleWork) :
    holds session.machine .step := by
  unfold cycleWork at throughout
  split at throughout
  · exact throughout.1
  · exact throughout.1

/-- What is left on both sides of a gated program. -/
def Paired (leeway : Leeway) (told : Prop) (left right : Machine × Debugger) : Prop :=
  left.1.Near leeway right.1 ∧ left.2.Alike told right.2

section
variable {left right : Session} (kept : leeway.IsKept)
  (whole : ∀ {memory memory'}, leeway.memory memory memory' → memory' = memory)
  (near : Near leeway told left right)
include kept whole near

lemma agree_stepGated
    (settles : left.isStopped = false → left.machine.Settles leeway .step) :
    Agree (Paired leeway (told ∨ left.isStopped = true))
      (Machine.stepGated gate (left.machine, left.debugger))
      (Machine.stepGated gate (right.machine, right.debugger)) := by
  obtain ⟨admitted, debugger, debugger', asked, asked', same⟩ := near.ask whole
  unfold Machine.stepGated
  dsimp only
  rw [asked, asked']
  cases admitted with
  | false => exact .ok false ⟨near.machine, same⟩
  | true =>
    have runs : left.isStopped = false := by
      unfold isStopped
      rw [asked]
      rfl
    have stepped := Machine.agree_step_of_settles kept whole near.machine (settles runs)
    dsimp only
    generalize left.machine.step = first at stepped
    generalize right.machine.step = second at stepped
    cases stepped with
    | error fault nearby => exact .error fault ⟨nearby, same⟩
    | ok _ nearby => exact .ok true ⟨nearby, same⟩

lemma agree_cycleGated
    (settles : left.isStopped = false → left.machine.Settles leeway .step) :
    Agree (Paired leeway (told ∨ left.isStopped = true))
      (Machine.cycleGated gate (left.machine, left.debugger))
      (Machine.cycleGated gate (right.machine, right.debugger)) := by
  refine (agree_stepGated kept whole near settles).bind fun admitted left' right' paired => ?_
  cases admitted with
  | false => exact .ok false paired
  | true => exact .ok true ⟨paired.1.map (·.tick) fun _ _ => rfl, paired.2⟩

lemma agree_cycle
    (settles : ∀ after, left.cycle = .ok true after → left.machine.Settles leeway .step) :
    Agree (Near leeway (told ∨ left.isStopped = true)) left.cycle right.cycle := by
  have settled : left.isStopped = false → left.machine.Settles leeway .step := by
    intro runs
    rcases stepped : left.machine.step with ⟨⟨⟩, machine⟩ | ⟨fault, machine⟩
    · -- A step that the debugger admits and that succeeds completes the cycle.
      have cycled := cycle_eq left
      rcases asked : left.machine.ask gate left.debugger with ⟨admitted, debugger⟩
      obtain rfl : admitted = true := by simpa [isStopped, asked] using runs
      rw [asked] at cycled
      dsimp only at cycled
      rw [stepped] at cycled
      exact settles _ cycled
    · exact Machine.settles_of_error stepped
  have stepped := agree_stepGated kept whole near settled
  have resumed {machine machine' : Machine} {debugger debugger' : Debugger}
      (paired : Paired leeway (told ∨ left.isStopped = true) (machine, debugger)
        (machine', debugger')) :=
    near.withParts paired.1 paired.2
  obtain ⟨rom, cyclesPerTick, positive, machine, debugger, cycles, sinceTick⟩ := left
  obtain ⟨rom', cyclesPerTick', positive', machine', debugger', cycles', sinceTick'⟩ := right
  -- With the fields named, both cycles go on from where their gated steps led.
  unfold cycle
  dsimp only at stepped resumed ⊢
  generalize Machine.stepGated gate (machine, debugger) = first at stepped
  generalize Machine.stepGated gate (machine', debugger') = second at stepped
  cases stepped with
  | error fault paired => exact .error fault (resumed paired)
  | ok completed paired =>
    cases completed with
    | false => exact .ok false (resumed paired)
    | true => exact .ok true (resumed paired).completeCycle

lemma agree_cycleUnchecked (settles : left.machine.Settles leeway .step) :
    Agree (Near leeway told) left.cycleUnchecked right.cycleUnchecked := by
  have stepped := Machine.agree_step_of_settles kept whole near.machine settles
  rw [cycleUnchecked_eq, cycleUnchecked_eq]
  generalize left.machine.step = first at stepped
  generalize right.machine.step = second at stepped
  cases stepped with
  | error fault nearby => exact .error fault (near.withParts nearby near.debugger)
  | ok _ nearby => exact .ok () (near.withParts nearby near.debugger).completeCycle

lemma agree_step
    (settles : left.machine.Throughout (Machine.Settles leeway) (work .step left)) :
    Agree (Near leeway told) left.step right.step := by
  have settled : left.machine.Settles leeway .step := by
    rw [work] at settles
    cases stepped : left.machine.step with
    | ok answer machine =>
      rw [stepped] at settles
      exact step_of_cycleWork settles
    | error fault machine => exact Machine.settles_of_error stepped
  refine (agree_cycleUnchecked kept whole near settled).bind fun _ left' right' near' => ?_
  have forgot := near'.clearResume
  have same : (right'.mapDebugger .clearResume).stepEvent =
      (left'.mapDebugger .clearResume).stepEvent := by
    unfold stepEvent
    rw [forgot.pc]
  simp only [run_bind, run_modify, run_get, run_pure]
  rw [same]
  exact .ok _ forgot

/-! ## Runs -/

omit near in
/-- Once both have been told the same, what they report is the same as well. -/
lemma agree_runCycles {left right : Session} (near : Near leeway True left right)
    (untilKeyWait : Bool) (budget : Nat)
    (settles : left.machine.Throughout (Machine.Settles leeway)
      (runWork untilKeyWait budget left)) :
    Agree (Near leeway True) (runCycles untilKeyWait budget left)
      (runCycles untilKeyWait budget right) := by
  -- On the budget, for all sessions at once: the rest of a run begins where its first cycle led.
  induction budget generalizing left right with
  | zero => exact .ok _ near
  | succ budget ih =>
    -- A cycle that completes goes before the rest of the run.
    have cut {after : Session} (cycled : left.cycle = .ok true after) :
        left.machine.Settles leeway .step ∧
          after.machine.Throughout (Machine.Settles leeway)
            (if untilKeyWait && after.machine.isWaiting then []
              else runWork untilKeyWait budget after) := by
      rw [runWork, cycled] at settles
      obtain ⟨first, rest⟩ := Machine.throughout_append.1 settles
      rw [← (account_of_completed cycled).machine] at rest
      exact ⟨step_of_cycleWork first, rest⟩
    have cycled := agree_cycle kept whole near fun after completed => (cut completed).1
    rw [runCycles_succ, runCycles_succ]
    generalize ran : left.cycle = first at cycled
    generalize right.cycle = second at cycled
    cases cycled with
    | error fault same => exact .error fault (same.mono .inl)
    | @ok completed after after' same =>
      have near' : Near leeway True after after' := same.mono .inl
      cases completed with
      | false =>
        dsimp only
        rw [near'.debugger.lastStop trivial]
        exact .ok _ near'
      | true =>
        have rest := (cut ran).2
        dsimp only
        rw [near'.machine.isWaiting]
        split
        · have event : after'.keyWaitEvent = after.keyWaitEvent := by
            unfold keyWaitEvent
            rw [near'.pc]
          rw [event]
          exact .ok _ near'
        · rename_i goesOn
          rw [if_neg goesOn] at rest
          exact ih near' rest

lemma agree_run (budget : Int) (untilKeyWait : Bool)
    (settles : left.machine.Throughout (Machine.Settles leeway)
      (work (.run budget untilKeyWait) left)) :
    Agree (Near leeway True) (run budget untilKeyWait left) (run budget untilKeyWait right) := by
  have ran := agree_runCycles kept whole (near.mapDebugger _ near.debugger.clearLastStop)
    untilKeyWait budget.toNat settles
  rw [run_eq, run_eq]
  generalize runCycles untilKeyWait budget.toNat (left.mapDebugger .clearLastStop) = first at ran
  generalize runCycles untilKeyWait budget.toNat (right.mapDebugger .clearLastStop) = second at ran
  cases ran with
  | error fault same => exact .error fault same
  | @ok event after after' same =>
    cases event with
    | some event => exact .ok event same
    | none =>
      have event : after'.budgetEvent budget = after.budgetEvent budget := by
        unfold budgetEvent
        rw [same.pc]
      dsimp only
      rw [event]
      exact .ok _ same

lemma agree_runUntil (address budget : Int)
    (settles : left.machine.Throughout (Machine.Settles leeway)
      (work (.runUntil address budget) left)) :
    Agree (Near leeway True) (runUntil address budget left) (runUntil address budget right) := by
  have wasSet : right.debugger.hasBreakpoint address = left.debugger.hasBreakpoint address := by
    unfold Debugger.hasBreakpoint
    rw [near.debugger.breakpoints]
  have ran : Agree (Near leeway True) (run budget false (left.mapDebugger (·.addBreakpoint address)))
      (run budget false (right.mapDebugger (·.addBreakpoint address))) :=
    agree_run kept whole (near.operateDebugger (.addBreakpoint address)) budget false settles
  have restored {after after' : Session} (same : Near leeway True after after') :
      Near leeway True (after.mapDebugger (·.removeBreakpoint address))
        (after'.mapDebugger (·.removeBreakpoint address)) :=
    (same.operateDebugger (.removeBreakpoint address)).mono .inl
  unfold runUntil
  dsimp only
  rw [wasSet]
  generalize run budget false (left.mapDebugger (·.addBreakpoint address)) = first at ran
  generalize run budget false (right.mapDebugger (·.addBreakpoint address)) = second at ran
  cases ran with
  | error fault same =>
    refine .error fault ?_
    split
    · exact same
    · exact restored same
  | ok event same =>
    refine .ok _ ?_
    split
    · exact same
    · exact restored same

/-! ## Operations -/

omit kept whole near in
lemma machine_setKeys {session : Session} {keys : Option (List Bool)} {keypad : Keypad}
    (set : session.keypadFor keys = .ok keypad) :
    session.machine.operateAll (keys.map .setKeys).toList =
      (session.withKeypad keypad).machine := by
  cases keys with
  | none =>
    obtain rfl : session.machine.keypad = keypad := Except.ok.inj set
    rfl
  | some states =>
    have latched : Keypad.ofList states = .ok keypad := set
    show session.machine.latch (Keypad.ofList states) = _
    rw [latched]
    rfl

lemma agree_cycleWith (keys : Option (List Bool))
    (settles : left.machine.Throughout (Machine.Settles leeway) (work (.cycle keys) left)) :
    Agree (Near leeway (told ∨ left.renews (.cycle keys) = true)) (cycleWith keys left)
      (cycleWith keys right) := by
  rw [cycleWith_eq, cycleWith_eq, near.keypadFor, renews]
  cases set : left.keypadFor keys with
  | error misuse => exact .error _ near.untold
  | ok keypad =>
    have settled (after : Session) (completed : (left.withKeypad keypad).cycle = .ok true after) :
        (left.withKeypad keypad).machine.Settles leeway .step := by
      rw [work, set] at settles
      have ran : (left.withKeypad keypad).machine.Throughout (Machine.Settles leeway)
          (runWork false (0 + 1) (left.withKeypad keypad)) := by
        rw [← machine_setKeys set]
        exact (Machine.throughout_append.1 settles).2
      rw [runWork, completed] at ran
      exact step_of_cycleWork (Machine.throughout_append.1 ran).1
    have cycled := agree_cycle kept whole (near.withKeypad keypad) settled
    dsimp only
    generalize (left.withKeypad keypad).cycle = first at cycled
    generalize (right.withKeypad keypad).cycle = second at cycled
    cases cycled with
    | ok completed same => exact .ok completed same
    | error fault same => exact .error _ same

omit kept whole in
lemma agree_gated {told' : Prop} {program : EStateM Fault (Machine × Debugger) Bool}
    (agree : Agree (Paired leeway told') (program (left.machine, left.debugger))
      (program (right.machine, right.debugger))) :
    Agree (Near leeway told') (gated program left) (gated program right) := by
  unfold gated
  generalize program (left.machine, left.debugger) = first at agree
  generalize program (right.machine, right.debugger) = second at agree
  cases agree with
  | ok admitted paired => exact .ok (Reply.truth admitted) (near.withParts paired.1 paired.2)
  | error fault paired => exact .error (Error.fault fault) (near.withParts paired.1 paired.2)

/-- Sessions that are near respond alike to an operation and stay near, if what it does on the way is
settled. -/
theorem near_respond (operation : Operation)
    (settles : left.machine.Throughout (Machine.Settles leeway) (work operation left)) :
    Agree (Near leeway (told ∨ left.renews operation = true)) (respond operation left)
      (respond operation right) := by
  have admitted (entry : Machine.Operation)
      (known : (if (left.machine.ask gate left.debugger).1 then [entry] else []) =
        work operation left)
      (runs : left.isStopped = false) : left.machine.Settles leeway entry := by
    have asked : (left.machine.ask gate left.debugger).1 = true := by
      simpa [isStopped] using runs
    rw [← known, if_pos asked] at settles
    exact settles.1
  cases operation
  case cycle keys => exact (agree_cycleWith kept whole near keys settles).map _
  case step =>
    exact (((agree_step kept whole near settles).adaptExcept Error.fault).map _).mono
      fun _ _ same => same.untold
  case run budget untilKeyWait =>
    exact (((agree_run kept whole near budget untilKeyWait settles).adaptExcept Error.fault).map
      _).mono fun _ _ same => same.mono fun _ => trivial
  case runUntil address budget =>
    exact (((agree_runUntil kept whole near address budget settles).adaptExcept Error.fault).map
      _).mono fun _ _ same => same.mono fun _ => trivial
  case reset => exact .ok Reply.done (near.reset kept).untold
  case debugger operation =>
    unfold respond
    dsimp only
    rw [near.debugger.respond_eq]
    exact .ok _ (near.operateDebugger operation)
  case machine operation =>
    have responded := Machine.agree_respond kept whole near.machine settles.1
    unfold respond
    dsimp only
    generalize Machine.respond operation left.machine = first at responded
    generalize Machine.respond operation right.machine = second at responded
    cases responded with
    | ok reply nearby => exact .ok reply (near.withParts nearby near.debugger).untold
    | error error nearby => exact .error error (near.withParts nearby near.debugger).untold
  case stepGated =>
    exact agree_gated near (agree_stepGated kept whole near (admitted .step rfl))
  case cycleGated =>
    exact agree_gated near (agree_cycleGated kept whole near fun runs => (admitted .cycle rfl runs).step)

end

/-- Sessions that are near are so after any operations, if what these do on the way is settled. -/
theorem near_operateAll {left right : Session} (kept : leeway.IsKept)
    (whole : ∀ {memory memory'}, leeway.memory memory memory' → memory' = memory)
    (operations : List Operation) (near : Near leeway told left right)
    (settles : left.machine.Throughout (Machine.Settles leeway) (chronicle left operations)) :
    Near leeway (told ∨ left.renewsAny operations = true) (left.operateAll operations)
      (right.operateAll operations) := by
  -- On the operations, for all sessions at once: the rest of them begins where the first one led.
  induction operations generalizing told left right with
  | nil => exact near.untold
  | cons operation rest ih =>
    obtain ⟨first, later⟩ := Machine.throughout_append.1 settles
    rw [← machine_operate] at later
    have after := (near_respond kept whole near operation first).leaves
    rw [leaves_respond, leaves_respond] at after
    refine (ih after later).mono ?_
    rw [renewsAny, Bool.or_eq_true]
    tauto

end Session

end Chip8
