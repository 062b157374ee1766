import Chip8.Proofs.Dialogue
import Chip8.Proofs.Frames

/-!
# The renderer misses nothing

The screen remembers whether it may have changed since it was last shown. Whatever does not show it leaves
it as it was, or waiting to be shown (`Screen.Repaints`): instructions do, and so do all operations of a
host, a reset among them. So if the screen does not wait, it has been shown, and is the one that was shown
last (`no_frame_missed`).
-/

namespace Chip8

/-! ## Repainting -/

/-- The screen waits to be shown, or it is as it was before. -/
def Screen.Repaints (before after : Screen) : Prop :=
  after.isStale = true ∨ after = before

namespace Screen

lemma Repaints.trans {before between after : Screen} (first : Repaints before between)
    (second : Repaints between after) : Repaints before after := by
  rcases second with stale | rfl
  · exact .inl stale
  · exact first

end Screen

namespace Machine

variable {machine : Machine}

/-- Whether an operation acknowledges that the screen has been shown. -/
def Operation.acknowledges : Operation → Bool
  | .acknowledge => true
  | _ => false

/-- What changes the screen makes it wait, also where it changes nothing in the end. -/
theorem repaints_perform (instruction : Instruction) (machine : Machine) :
    machine.screen.Repaints (leaves (perform instruction machine)).screen := by
  by_cases paints : instruction.paints = true
  · cases instruction
    case clear => exact .inl rfl
    case draw x y height =>
      rw [perform, run_bind, run_readBlock]
      cases machine.memory.readBytes machine.processor.index.toNat height with
      | error cause => exact .inr rfl
      | ok sprite => exact .inl rfl
    all_goals cases paints
  · right
    exact keeps_perform (·.screen) (fun _ _ => rfl) (fun _ _ _ => rfl) (fun _ _ _ => rfl)
      (fun yes => absurd yes paints) machine

lemma repaints_step (machine : Machine) : machine.screen.Repaints (leaves machine.step).screen := by
  cases stepped : machine.step with
  | error fault after =>
    rw [step_of_error stepped]
    exact .inr rfl
  | ok answer after =>
    rcases step_completes_cases stepped with ⟨-, polled⟩ | ⟨word, -, performed⟩
    · have kept := keeps_pollKey (·.screen) (fun _ _ => rfl) machine
      rw [polled] at kept
      exact .inr kept
    · have repaints := repaints_perform (Instruction.decode word) machine
      rwa [performed] at repaints

/-- An operation that does not acknowledge the screen repaints it at most. -/
lemma repaints_operate {operation : Operation} (unseen : operation.acknowledges = false)
    (machine : Machine) : machine.screen.Repaints (machine.operate operation).screen := by
  cases operation
  case step => exact machine.repaints_step
  case cycle =>
    have repaints := machine.repaints_step
    rw [operate, run_cycle]
    cases stepped : machine.step <;> rw [stepped] at repaints <;> exact repaints
  case execute word =>
    rw [operate]
    unfold execute
    dsimp only
    rw [leaves_adaptExcept]
    exact repaints_perform _ machine
  case write address number => exact .inr (part_remember screen (fun _ _ => rfl) machine _)
  case writeBytes address data => exact .inr (part_remember screen (fun _ _ => rfl) machine _)
  case loadRom rom => exact .inr (part_remember screen (fun _ _ => rfl) machine _)
  case setKeys states => exact .inr (part_latch screen (fun _ _ => rfl) machine _)
  case setKey reference isDown => exact .inr (part_latch screen (fun _ _ => rfl) machine _)
  case draw x y sprites wrap => exact .inl rfl
  case clearScreen => exact .inl rfl
  case acknowledge => cases unseen
  all_goals exact .inr (by simp only [operate, mapProcessor, tick])

lemma repaints_operateAll {operations : List Operation}
    (unseen : ∀ operation ∈ operations, operation.acknowledges = false) (machine : Machine) :
    machine.screen.Repaints (machine.operateAll operations).screen := by
  induction operations generalizing machine with
  | nil => exact .inr rfl
  | cons operation rest ih =>
    obtain ⟨first, later⟩ := List.forall_mem_cons.1 unseen
    exact (repaints_operate first machine).trans (ih later (machine.operate operation))

end Machine

/-! ## Requests that show the screen -/

namespace Session

/-- Whether an operation acknowledges that the screen has been shown. -/
def Operation.acknowledges : Operation → Bool
  | .machine operation => operation.acknowledges
  | _ => false

/-- Only the host itself acknowledges the screen: nothing that is done for it does. -/
lemma unseen_of_work {operation : Operation} (unseen : operation.acknowledges = false)
    (session : Session) {entry : Machine.Operation} (member : entry ∈ work operation session) :
    entry.acknowledges = false := by
  by_cases runs : operation.isRun = true
  · have running := (account_operate runs session).running entry member
    cases entry <;> first | rfl | cases running
  · cases operation
    case reset =>
      simp only [work, List.mem_cons, List.not_mem_nil, or_false] at member
      rcases member with rfl | rfl | rfl | rfl | rfl <;> rfl
    case debugger operation => cases member
    case machine operation =>
      obtain rfl := List.mem_singleton.1 member
      exact unseen
    case stepGated =>
      rw [work] at member
      split at member
      · obtain rfl := List.mem_singleton.1 member
        rfl
      · cases member
    case cycleGated =>
      rw [work] at member
      split at member
      · obtain rfl := List.mem_singleton.1 member
        rfl
      · cases member
    all_goals exact absurd rfl runs

/-- Operations that do not acknowledge the screen repaint it at most. -/
lemma repaints_operateAll {operations : List Operation}
    (unseen : ∀ operation ∈ operations, operation.acknowledges = false) (session : Session) :
    session.machine.screen.Repaints (session.operateAll operations).machine.screen := by
  rw [machine_operateAll]
  refine Machine.repaints_operateAll (fun entry member => ?_) session.machine
  obtain ⟨operation, inside, between, worked⟩ := mem_chronicle member
  exact unseen_of_work (unseen operation inside) between worked

/-- Whether a request shows the screen: it acknowledges the screen, or takes the pixels as bytes or as a
picture of a size that makes sense. -/
def Request.shows : Request → Bool
  | .operate (.machine .acknowledge) => true
  | .give .acknowledge => true
  | .give .takeBytes => true
  | .give (.takePicture scale _ _) => 1 ≤ scale
  | _ => false

/-- Showing the screen acknowledges it. -/
lemma operations_of_shows {request : Request} (shows : request.shows = true) :
    request.operations = [.machine .acknowledge] := by
  cases request with
  | operate operation =>
    cases operation
    case machine operation =>
      cases operation
      case acknowledge => rfl
      all_goals cases shows
    all_goals cases shows
  | give command =>
    cases command
    case acknowledge => rfl
    case takeBytes => rfl
    case takePicture scale on off =>
      have large : 1 ≤ scale := of_decide_eq_true shows
      rw [Request.operations, Command.operations, if_neg (by omega)]
    all_goals cases shows
  | look view => cases shows

/-- What does not show the screen does not acknowledge it. -/
lemma unseen_of_not_shows {request : Request} (unseen : request.shows = false) :
    ∀ operation ∈ request.operations, operation.acknowledges = false := by
  cases request with
  | operate operation =>
    intro other member
    rw [List.mem_singleton.1 member]
    cases operation
    case machine operation =>
      cases operation
      case acknowledge => cases unseen
      all_goals rfl
    all_goals rfl
  | give command =>
    cases command
    case acknowledge => cases unseen
    case takeBytes => cases unseen
    case takePicture scale on off =>
      have small : ¬1 ≤ scale := of_decide_eq_false unseen
      rw [Request.operations, Command.operations, if_pos (by omega)]
      exact List.forall_mem_nil _
    case assignV register number =>
      rw [Request.operations, Command.operations]
      cases Place.ofIndex? register <;> simp [Operation.acknowledges, Machine.Operation.acknowledges]
    all_goals simp [Request.operations, Command.operations, Operation.acknowledges,
      Machine.Operation.acknowledges]
  | look view => exact List.forall_mem_nil _

/-! ## Since the screen was shown -/

lemma serveAll_append (session : Session) (earlier later : List Request) :
    session.serveAll (earlier ++ later) = (session.serveAll earlier).serveAll later :=
  List.foldl_append

lemma screen_of_shows {request : Request} (shows : request.shows = true) (session : Session) :
    (session.serveAll [request]).machine.screen = session.machine.screen.acknowledge := by
  rw [serveAll_cons, operations_of_shows shows]
  rfl

lemma repaints_of_not_shows {request : Request} (unseen : request.shows = false)
    (session : Session) :
    session.machine.screen.Repaints (session.serveAll [request]).machine.screen := by
  rw [serveAll_cons]
  exact repaints_operateAll (unseen_of_not_shows unseen) session

/-- A screen that waited in the beginning and does not wait any more is the one that was shown last. -/
lemma shown_of_not_stale {initial : Session} (waited : initial.machine.screen.isStale = true)
    {requests : List Request} (seen : (initial.serveAll requests).machine.screen.isStale = false) :
    ∃ before shown since, requests = before ++ shown :: since ∧ shown.shows = true ∧
      (∀ later ∈ since, later.shows = false) ∧
      (initial.serveAll requests).machine.screen.pixels =
        (initial.serveAll before).machine.screen.pixels := by
  -- On the requests from the last one on: it shows the screen, or the screen was shown before it.
  induction requests using List.reverseRecOn with
  | nil => exact absurd (waited.symm.trans seen) nofun
  | append_singleton earlier last ih =>
    rw [serveAll_append] at seen ⊢
    by_cases shows : last.shows = true
    · refine ⟨earlier, last, [], rfl, shows, nofun, ?_⟩
      rw [screen_of_shows shows]
      rfl
    · have unseen : last.shows = false := Bool.eq_false_iff.2 shows
      rcases repaints_of_not_shows unseen (initial.serveAll earlier) with stale | same
      · exact absurd (stale.symm.trans seen) nofun
      · rw [same] at seen ⊢
        obtain ⟨before, shown, since, rfl, shows', others, pixels⟩ := ih seen
        refine ⟨before, shown, since ++ [last], by simp, shows', fun later member => ?_, pixels⟩
        rcases List.mem_append.1 member with early | late
        · exact others later early
        · obtain rfl := List.mem_singleton.1 late
          exact unseen

lemma length_dialogue (session : Session) (requests : List Request) :
    (dialogue session requests).length = requests.length := by
  induction requests generalizing session with
  | nil => rfl
  | cons request rest ih => exact congrArg (· + 1) (ih _)

lemma dialogue_append (session : Session) (earlier later : List Request) :
    dialogue session (earlier ++ later) =
      dialogue session earlier ++ dialogue (session.serveAll earlier) later := by
  induction earlier generalizing session with
  | nil => rfl
  | cons request rest ih => exact congrArg (_ :: ·) (ih _)

/-- Among the requests and their responses are each request and its own response. -/
lemma mem_zip_dialogue (session : Session) (before : List Request) (request : Request)
    (since : List Request) :
    (request, outcome (serve request (session.serveAll before))) ∈
      (before ++ request :: since).zip (dialogue session (before ++ request :: since)) := by
  rw [dialogue_append, List.zip_append (length_dialogue session before).symm]
  exact List.mem_append_right _ List.mem_cons_self

/-- Pictures aside, showing the screen succeeds. -/
lemma responds_of_shows {request : Request} (shows : request.shows = true)
    (pictures : ∀ scale on off, request ≠ .give (.takePicture scale on off)) (session : Session) :
    ∃ response, outcome (serve request session) = .ok response := by
  cases request with
  | operate operation =>
    cases operation
    case machine operation =>
      cases operation
      case acknowledge => exact ⟨_, rfl⟩
      all_goals cases shows
    all_goals cases shows
  | give command =>
    cases command
    case acknowledge => exact ⟨_, rfl⟩
    case takeBytes => exact ⟨_, rfl⟩
    case takePicture scale on off => exact absurd rfl (pictures scale on off)
    all_goals cases shows
  | look view => cases shows

/-- A picture of a size below one is refused, and nothing else happens. -/
lemma serve_takePicture_of_small {scale : Int} (small : scale < 1) (on off : Paint)
    (session : Session) :
    serve (.give (.takePicture scale on off)) session =
      .error (.misuse (.scale scale)) session := by
  have refused : Screen.takePicture scale on off session.machine.screen =
      .error (.scale scale) session.machine.screen := if_pos small
  rw [serve, run_map, perform, run_map]
  unfold onScreen
  dsimp only
  rw [refused]
  rfl

/-- The renderer misses no frame. Whatever a host has asked of a session since it was started, if the
screen does not wait to be shown then it has been shown, and every pixel is as it was when it was shown
last. If all pictures came out that were not refused for their size, then it came out when it was shown
last. A picture that is refused for its size, and looking, leave the session as it is. -/
theorem no_frame_missed {settings : Settings} {random : RandomSource}
    {image : Except Error (List UInt8)} {initial : Session}
    (started : start settings random image = .ok initial) (requests : List Request) :
    let session := initial.serveAll requests
    (session.machine.screen.isStale = false →
      ∃ before shown since, requests = before ++ shown :: since ∧ shown.shows = true ∧
        (∀ later ∈ since, later.shows = false) ∧
        session.machine.screen.pixels = (initial.serveAll before).machine.screen.pixels ∧
        ((∀ scale on off response, (Request.give (.takePicture scale on off), response) ∈
            requests.zip (dialogue initial requests) →
              scale < 1 ∨ ∃ answer, response = .ok answer) →
          ∃ answer, outcome (serve shown (initial.serveAll before)) = .ok answer)) ∧
    (∀ scale on off, scale < 1 →
      serve (.give (.takePicture scale on off)) session =
        .error (.misuse (.scale scale)) session) ∧
    ∀ view, leaves (serve (.look view) session) = session := by
  intro session
  refine ⟨fun seen => ?_, fun scale on off small => serve_takePicture_of_small small on off session,
    fun view => leaves_serve (.look view) session⟩
  have waited : initial.machine.screen.isStale = true := by
    obtain ⟨rom, positive, -, rfl⟩ := start_eq_ok_iff.1 started
    rfl
  obtain ⟨before, shown, since, rfl, shows, others, pixels⟩ := shown_of_not_stale waited seen
  refine ⟨before, shown, since, rfl, shows, others, pixels, fun comeOut => ?_⟩
  have responded := mem_zip_dialogue initial before shown since
  by_cases picture : ∃ scale on off, shown = .give (.takePicture scale on off)
  · obtain ⟨scale, on, off, rfl⟩ := picture
    have large : 1 ≤ scale := of_decide_eq_true shows
    exact (comeOut scale on off _ responded).resolve_left (by omega)
  · push Not at picture
    exact responds_of_shows shows picture _

/-- A program that draws the first row of a glyph over and over again. -/
def blinkRom : Rom where
  bytes := [0xD0, 0x01, 0x12, 0x00]
  fits := by decide

/-- The session that is started with it. -/
def blinking : Session := powerOn blinkRom 1 Nat.one_pos (.ofStream fun count => count) false

/-- The row is drawn, shown and not drawn again: the host only looks at it, and asks for a picture without
any size. -/
def drawAndShow : List Request :=
  [.give (.cycle none), .give .takeBytes, .give (.cycle none), .look .litCount,
    .give (.takePicture 0 .white .black)]

/-- The four pixels that were shown are still lit. When the row is drawn again, the screen waits. -/
theorem no_frame_missed_while_looking :
    start {} (.ofStream fun count => count) (.ok blinkRom.bytes) = .ok blinking ∧
      (blinking.serveAll drawAndShow).machine.screen.isStale = false ∧
      (blinking.serveAll drawAndShow).machine.screen.litCount = 4 ∧
      (∃ before shown since, drawAndShow = before ++ shown :: since ∧ shown.shows = true ∧
        (blinking.serveAll drawAndShow).machine.screen.pixels =
          (blinking.serveAll before).machine.screen.pixels ∧
        ∃ answer, outcome (serve shown (blinking.serveAll before)) = .ok answer) ∧
      (blinking.serveAll (drawAndShow ++ [.give (.cycle none)])).machine.screen.isStale = true := by
  have started : start {} (.ofStream fun count => count) (.ok blinkRom.bytes) = .ok blinking := rfl
  have seen : (blinking.serveAll drawAndShow).machine.screen.isStale = false := by decide +kernel
  obtain ⟨shows, -, -⟩ := no_frame_missed started drawAndShow
  obtain ⟨before, shown, since, split, shows, -, pixels, comesOut⟩ := shows seen
  have small (scale : Int) (on off : Paint) (response : Except Error Response)
      (member : (Request.give (.takePicture scale on off), response) ∈
        drawAndShow.zip (dialogue blinking drawAndShow)) :
      scale < 1 ∨ ∃ answer, response = .ok answer := by
    have asked := (List.of_mem_zip member).1
    simp only [drawAndShow, List.mem_cons, Request.give.injEq, Command.takePicture.injEq, reduceCtorEq,
      List.not_mem_nil, false_or, or_false] at asked
    exact .inl (by omega)
  exact ⟨started, seen, by decide +kernel, ⟨before, shown, since, split, shows, pixels, comesOut small⟩,
    by decide +kernel⟩

end Session

end Chip8
