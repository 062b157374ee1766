import Chip8.Proofs.Raw.Operations

/-!
# Responses to operations

What a host gets back from an operation on a machine, a debugger or a session: a reply, or the error
that it fails with. `respond` is the operation with its response; what it leaves is what the operation
leaves (`leaves_respond`).
-/

namespace Chip8

/-- What an operation gives back if it does not fail. -/
inductive Reply
  | done
  | truth (value : Bool)
  | word (word : UInt16)
  | event (event : StopEvent)
deriving DecidableEq, Repr

/-- The result of a program, or its error. -/
def outcome {ε σ α : Type} : EStateM.Result ε σ α → Except ε α
  | .ok a _ => .ok a
  | .error e _ => .error e

namespace Machine

/-- Changes the machine, or fails and leaves it as it is. -/
def attempt {ε : Type} (error : ε → Error) (change : Machine → Except ε Machine) :
    EStateM Error Machine Reply := fun machine =>
  match change machine with
  | .ok after => .ok .done after
  | .error cause => .error (error cause) machine

/-- Carries an operation out and gives its response. -/
def respond : Operation → EStateM Error Machine Reply
  | .step => (fun _ => .truth true) <$> step.adaptExcept .fault
  | .cycle => (fun _ => .truth true) <$> cycle.adaptExcept .fault
  | .fetch => fun machine => match machine.fetch with
    | .ok word => .ok (.word word) machine
    | .error fault => .error (.fault fault) machine
  | .tick => fun machine => .ok .done machine.tick
  | .execute word => (fun _ => .done) <$> (execute (.ofInt word)).adaptExcept .fault
  | .resetProcessor => fun machine => .ok .done { machine with processor := .powerOn }
  | .assign register number => fun machine =>
    .ok .done (machine.mapProcessor (·.assign register number))
  | .assignV register number => fun machine =>
    .ok .done (machine.mapProcessor (·.setV register (.ofInt number)))
  | .write address number => attempt (fun cause => .fault { cause }) fun machine =>
    (machine.memory.write address (.ofInt number)).map ({ machine with memory := · })
  | .writeBytes address data => attempt (fun cause => .fault { cause }) fun machine =>
    (machine.memory.writeBytes address (data.map .ofInt)).map ({ machine with memory := · })
  | .loadRom rom => attempt (fun failure => .load { failure }) fun machine =>
    (Rom.ofBytes rom).map fun rom => { machine with memory := machine.memory.load rom }
  | .resetMemory => fun machine => .ok .done { machine with memory := .blank }
  | .draw x y sprites wrap => fun machine =>
    let (collision, screen) := machine.screen.draw x y sprites wrap
    .ok (.truth collision) { machine with screen }
  | .clearScreen => fun machine => .ok .done { machine with screen := .blank }
  | .acknowledge => fun machine => .ok .done { machine with screen := machine.screen.acknowledge }
  | .setKeys states => attempt .misuse fun machine =>
    (Keypad.ofList states).map ({ machine with keypad := · })
  | .setKey reference isDown => attempt .misuse fun machine =>
    reference.resolve.map fun key => { machine with keypad := machine.keypad.set key isDown }
  | .releaseAll => fun machine => .ok .done { machine with keypad := .released }

/-- What an operation leaves does not depend on whether anybody wants its response. -/
lemma leaves_respond (operation : Operation) (machine : Machine) :
    leaves (respond operation machine) = machine.operate operation := by
  cases operation
  case step => rw [respond, leaves_map, leaves_adaptExcept, operate]
  case cycle => rw [respond, leaves_map, leaves_adaptExcept, operate]
  case execute word => rw [respond, leaves_map, leaves_adaptExcept, operate]
  case fetch =>
    unfold respond
    dsimp only
    cases machine.fetch <;> rfl
  case write address number =>
    unfold respond attempt operate remember
    dsimp only
    cases machine.memory.write address (.ofInt number) <;> rfl
  case writeBytes address data =>
    unfold respond attempt operate remember
    dsimp only
    cases machine.memory.writeBytes address (data.map .ofInt) <;> rfl
  case loadRom rom =>
    unfold respond attempt operate remember
    dsimp only
    cases Rom.ofBytes rom <;> rfl
  case setKeys states =>
    unfold respond attempt operate latch
    dsimp only
    cases Keypad.ofList states <;> rfl
  case setKey reference isDown =>
    unfold respond attempt operate latch
    dsimp only
    cases reference.resolve <;> rfl
  all_goals rfl

end Machine

/-- The response of a debugger to an operation. -/
def Debugger.respond (debugger : Debugger) : Operation → Reply
  | .check pc => .truth (debugger.check pc).1
  | _ => .done

namespace Session

/-- Runs a gated program on the machine of a session. -/
def gated (program : EStateM Fault (Machine × Debugger) Bool) : EStateM Error Session Reply :=
  fun session =>
    match program (session.machine, session.debugger) with
    | .ok admitted (machine, debugger) => .ok (.truth admitted) { session with machine, debugger }
    | .error fault (machine, debugger) => .error (.fault fault) { session with machine, debugger }

/-- Carries an operation out and gives its response. -/
def respond : Operation → EStateM Error Session Reply
  | .cycle keys => .truth <$> cycleWith keys
  | .step => .event <$> step.adaptExcept .fault
  | .run budget untilKeyWait => .event <$> (run budget untilKeyWait).adaptExcept .fault
  | .runUntil address budget => .truth <$> (runUntil address budget).adaptExcept .fault
  | .reset => fun session => .ok .done session.reset
  | .debugger operation => fun session =>
    .ok (session.debugger.respond operation) (session.mapDebugger (·.operate operation))
  | .machine operation => fun session =>
    match Machine.respond operation session.machine with
    | .ok reply machine => .ok reply { session with machine }
    | .error error machine => .error error { session with machine }
  | .stepGated => gated (Machine.stepGated gate)
  | .cycleGated => gated (Machine.cycleGated gate)

lemma leaves_gated (program : EStateM Fault (Machine × Debugger) Bool) (session : Session) :
    leaves (gated program session) =
      session.afterGated (program (session.machine, session.debugger)) := by
  unfold gated afterGated
  cases program (session.machine, session.debugger) <;> rfl

/-- What an operation leaves does not depend on whether anybody wants its response. -/
theorem leaves_respond (operation : Operation) (session : Session) :
    leaves (respond operation session) = session.operate operation := by
  cases operation
  case cycle keys => rw [respond, leaves_map, operate]
  case step => rw [respond, leaves_map, leaves_adaptExcept, operate]
  case run budget untilKeyWait => rw [respond, leaves_map, leaves_adaptExcept, operate]
  case runUntil address budget => rw [respond, leaves_map, leaves_adaptExcept, operate]
  case reset => rfl
  case debugger operation => rfl
  case machine operation =>
    have left := Machine.leaves_respond operation session.machine
    show leaves (match Machine.respond operation session.machine with
      | .ok reply machine => .ok reply { session with machine }
      | .error error machine => .error error { session with machine }) =
        session.mapMachine (·.operate operation)
    rw [mapMachine, ← left]
    cases Machine.respond operation session.machine <;> rfl
  case stepGated => exact leaves_gated _ session
  case cycleGated => exact leaves_gated _ session

end Session

end Chip8
