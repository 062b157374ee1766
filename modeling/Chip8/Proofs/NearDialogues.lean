import Chip8.Proofs.Dialogue
import Chip8.Proofs.NearSessions

/-!
# Dialogues with near sessions

A host cannot tell near sessions apart. They give the same answer to every command (`near_answer`) and look
the same (`near_look`), so in every dialogue it is told the same by both, and they stay near
(`near_dialogue`). This holds as long as the same return addresses are in use on both, and as long as
what the requests draw is settled.
-/

namespace Chip8.Session

variable {told : Prop} {leeway : Leeway} {left right : Session}

/-! ## Chronicles of several operations -/

lemma chronicle_singleton (operation : Operation) (session : Session) :
    chronicle session [operation] = work operation session := List.append_nil _

lemma chronicle_append (session : Session) (earlier later : List Operation) :
    chronicle session (earlier ++ later) =
      chronicle session earlier ++ chronicle (session.operateAll earlier) later := by
  induction earlier generalizing session with
  | nil => rfl
  | cons operation rest ih =>
    rw [List.cons_append, chronicle, chronicle, ih, List.append_assoc]
    rfl

/-- What holds throughout several operations holds throughout the first and throughout the rest. -/
lemma throughout_chronicle_append {holds : Machine → Machine.Operation → Prop} {session : Session}
    {earlier later : List Operation} :
    session.machine.Throughout holds (chronicle session (earlier ++ later)) ↔
      session.machine.Throughout holds (chronicle session earlier) ∧
        (session.operateAll earlier).machine.Throughout holds
          (chronicle (session.operateAll earlier) later) := by
  rw [chronicle_append, Machine.throughout_append, ← machine_operateAll]

section
variable (kept : leeway.IsKept)
  (whole : ∀ {memory memory'}, leeway.memory memory memory' → memory' = memory)

/-! ## Answers -/

include kept whole in
/-- Near sessions give the same answer to a command, if what it draws is settled. -/
theorem near_answer (near : Near leeway told left right) (command : Command)
    (settles : left.machine.Throughout (Machine.Settles leeway)
      (chronicle left command.operations)) :
    outcome (perform command left) = outcome (perform command right) := by
  -- Some commands run the program; the others ask for one part of the machine or for none.
  cases command
  case cycle keys =>
    rw [Command.operations, chronicle_singleton] at settles
    exact ((agree_cycleWith kept whole near keys settles).map _).outcome_eq
  case step =>
    rw [Command.operations, chronicle_singleton] at settles
    exact (((agree_step kept whole near settles).adaptExcept Error.fault).map _).outcome_eq
  case run budget untilKeyWait =>
    rw [Command.operations, chronicle_singleton] at settles
    exact (((agree_run kept whole near budget untilKeyWait settles).adaptExcept Error.fault).map
      _).outcome_eq
  case runUntil address budget =>
    rw [Command.operations, chronicle_singleton] at settles
    exact (((agree_runUntil kept whole near address budget settles).adaptExcept Error.fault).map
      _).outcome_eq
  case execute word =>
    have performed : left.machine.performed? (.execute word.toNat) =
        some (Instruction.decode word) := by
      rw [Machine.performed?, Raw.ofInt_toNat16]
    have executed := (Machine.agree_execute kept near.machine word
      (near.machine.findsSame whole settles.1 performed)).outcome_eq
    unfold perform
    dsimp only
    cases first : left.machine.execute word <;> cases second : right.machine.execute word <;>
      rw [first, second] at executed <;> cases executed <;> rfl
  case setKeys keys =>
    rw [perform, run_bind, run_bind, setKeys, run_tryKeypad, run_tryKeypad]
    cases Keypad.ofList keys <;> rfl
  case press key =>
    rw [perform, run_bind, run_bind, run_tryKeypad, run_tryKeypad, near.machine.keypad]
    cases left.machine.keypad.press key <;> rfl
  case release key =>
    rw [perform, run_bind, run_bind, run_tryKeypad, run_tryKeypad, near.machine.keypad]
    cases left.machine.keypad.release key <;> rfl
  case read address count =>
    rw [perform, run_bind, run_bind, run_get, run_get]
    dsimp only
    rw [whole near.machine.memory]
    cases left.machine.memory.readBytes address count <;> rfl
  case write address number =>
    simp only [perform, run_bind, tryMachine, whole near.machine.memory]
    cases left.machine.memory.write address (.ofInt number) <;> rfl
  case assignV register number =>
    simp only [perform, run_bind, tryMachine, Processor.assignV]
    cases Place.ofIndex? register <;> rfl
  case draw x y rows wrap =>
    rw [perform, run_bind, run_bind, run_get, run_get]
    dsimp only
    rw [near.machine.screen]
    rfl
  case takeBytes =>
    rw [perform, run_bind, run_bind, run_get, run_get]
    dsimp only
    rw [near.machine.screen]
    rfl
  case takePicture scale on off =>
    rw [perform, run_map, run_map]
    unfold onScreen
    dsimp only
    rw [near.machine.screen]
    cases Screen.takePicture scale on off left.machine.screen <;> rfl
  all_goals rfl

/-! ## Looks -/

variable (live : ∀ {stack stack'}, leeway.stack stack stack' → stack'.live = stack.live)

include live in
lemma Near.dump (near : Near leeway told left right) :
    right.machine.processor.dump = left.machine.processor.dump := by
  have depth : right.machine.processor.stack.depth = left.machine.processor.stack.depth := by
    rw [← CallStack.length_live, live near.machine.stack, CallStack.length_live]
  rw [near.machine.processor]
  unfold Processor.dump
  simp only [depth]

include live in
/-- Near sessions that have been told the same look the same. -/
theorem near_look (near : Near leeway True left right) (view : View) :
    right.look view = left.look view := by
  cases view
  case stack => simp only [look, live near.machine.stack]
  case registers => simp only [look, near.dump live]
  case summary => simp only [look, Session.summary, near.rom, near.pc, near.cycles]
  case cycles => simp only [look, near.cycles]
  case sound =>
    unfold look
    dsimp only
    rw [near.machine.processor]
  case report => simp only [look, near.debugger.lastStop trivial]
  case keys => simp only [look, near.machine.keypad]
  all_goals simp only [look, near.machine.screen]

/-! ## Dialogues -/

include kept whole live in
/-- Near sessions give the same for a request, if what it draws is settled. -/
lemma near_serve (near : Near leeway True left right) (request : Request)
    (settles : left.machine.Throughout (Machine.Settles leeway)
      (chronicle left request.operations)) :
    outcome (serve request right) = outcome (serve request left) := by
  cases request with
  | operate operation =>
    rw [Request.operations, chronicle_singleton] at settles
    exact ((near_respond kept whole near operation settles).map _).outcome_eq.symm
  | give command =>
    have answers := near_answer kept whole near command settles
    rw [serve, run_map, run_map]
    cases first : perform command left <;> cases second : perform command right <;>
      rw [first, second] at answers <;> cases answers <;> rfl
  | look view =>
    unfold serve
    dsimp only
    rw [near_look live near view]
    cases left.look view <;> rfl

include kept whole live in
/-- Near sessions tell a host the same in every dialogue and stay near, if what the requests draw is
settled. -/
theorem near_dialogue (near : Near leeway True left right) (requests : List Request)
    (settles : left.machine.Throughout (Machine.Settles leeway)
      (chronicle left (requests.flatMap Request.operations))) :
    dialogue right requests = dialogue left requests ∧
      Near leeway True (left.serveAll requests) (right.serveAll requests) := by
  constructor
  · -- On the requests, for all sessions at once: the rest of them begins where the first one led.
    induction requests generalizing left right with
    | nil => rfl
    | cons request rest ih =>
      obtain ⟨first, later⟩ := throughout_chronicle_append.1 settles
      have near' := (near_operateAll kept whole request.operations near first).mono .inl
      rw [dialogue, dialogue, leaves_serve, leaves_serve, ih near' later,
        near_serve kept whole live near request first]
  · rw [serveAll_eq, serveAll_eq]
    exact (near_operateAll kept whole _ near settles).mono .inl

end

end Chip8.Session
