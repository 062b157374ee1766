import Chip8.Proofs.Chronicle
import Chip8.Proofs.Responses

/-!
# Dialogues with a host

A host talks to a session by requests: it carries operations out, gives commands, or looks at a part of
it (`View`). The session serves one after the other. What comes back is its side of the dialogue,
results and errors alike, and what the requests leave is the session that the host goes on with.

A command does to a session what operations do, none or one (`leaves_perform`), and looking does nothing.
So requests leave what their operations leave (`serveAll_eq`).
-/

namespace Chip8

namespace Session

/-! ## Looking -/

/-- What a host looks at. -/
inductive View
  /-- The return addresses in use, the oldest first. -/
  | stack
  /-- The registers by name, and how many return addresses are in use. -/
  | registers
  /-- The state in one line. -/
  | summary
  /-- How many cycles have completed. -/
  | cycles
  /-- Whether the host should be beeping. -/
  | sound
  /-- The last report of the debugger. -/
  | report
  /-- The keys that are down. -/
  | keys
  /-- Whether the screen waits to be shown. -/
  | isStale
  | pixel (x y : Int)
  | rows
  | litCount
  | text (on off : String)
deriving DecidableEq, Repr

/-- What a host sees. -/
inductive Finding
  | addresses (live : List Nat)
  | entries (entries : List (String × Reading))
  | text (text : String)
  | count (number : Nat)
  | truth (value : Bool)
  | report (event : Option StopEvent)
  | keys (pressed : List Key)
  | rows (rows : List (List Bool))
deriving DecidableEq, Repr

/-- What there is to be seen, unless the host looks past the screen. -/
def look (session : Session) : View → Except Error Finding
  | .stack => .ok (.addresses session.machine.processor.stack.live)
  | .registers => .ok (.entries session.machine.processor.dump.entries)
  | .summary => .ok (.text session.summary)
  | .cycles => .ok (.count session.cycles)
  | .sound => .ok (.truth (0 < session.machine.processor.sound))
  | .report => .ok (.report session.debugger.lastStop)
  | .keys => .ok (.keys session.machine.keypad.pressed)
  | .isStale => .ok (.truth session.machine.screen.isStale)
  | .pixel x y => match session.machine.screen.pixel x y with
    | .ok lit => .ok (.truth lit)
    | .error misuse => .error (.misuse misuse)
  | .rows => .ok (.rows session.machine.screen.rows)
  | .litCount => .ok (.count session.machine.screen.litCount)
  | .text on off => .ok (.text (session.machine.screen.text on off))

/-! ## Requests -/

/-- What a host asks for. -/
inductive Request
  | operate (operation : Operation)
  | give (command : Command)
  | look (view : View)

/-- What a host is given for a request that succeeds. -/
inductive Response
  | reply (reply : Reply)
  | answer (answer : Answer)
  | finding (finding : Finding)
deriving DecidableEq, Repr

/-- Serves a request. -/
def serve : Request → EStateM Error Session Response
  | .operate operation => .reply <$> respond operation
  | .give command => .answer <$> perform command
  | .look view => fun session => match session.look view with
    | .ok finding => .ok (.finding finding) session
    | .error error => .error error session

/-- The session that requests leave one after the other. -/
def serveAll (session : Session) (requests : List Request) : Session :=
  requests.foldl (fun session request => leaves (serve request session)) session

/-- What a host is told in a dialogue: the result of every request, or its error. -/
def dialogue : Session → List Request → List (Except Error Response)
  | _, [] => []
  | session, request :: rest =>
    outcome (serve request session) :: dialogue (leaves (serve request session)) rest

/-! ## What requests leave -/

/-- The operation that does what a command does, if the command does anything. -/
def Command.operations : Command → List Operation
  | .cycle keys => [.cycle keys]
  | .step => [.step]
  | .run budget untilKeyWait => [.run budget untilKeyWait]
  | .runUntil address budget => [.runUntil address budget]
  | .tick => [.machine .tick]
  | .reset => [.reset]
  | .addBreakpoint address => [.debugger (.addBreakpoint address)]
  | .removeBreakpoint address => [.debugger (.removeBreakpoint address)]
  | .clearBreakpoints => [.debugger .clearAll]
  | .requestStop => [.debugger .requestStop]
  | .setKeys keys => [.machine (.setKeys keys)]
  | .press key => [.machine (.setKey key true)]
  | .release key => [.machine (.setKey key false)]
  | .read _ _ => []
  | .write address number => [.machine (.write address number)]
  | .assignV register number => match Place.ofIndex? register with
    | some x => [.machine (.assignV x number)]
    | none => []
  | .assign register number => [.machine (.assign register number)]
  | .execute word => [.machine (.execute word.toNat)]
  | .draw x y rows wrap => [.machine (.draw x y rows wrap)]
  | .clearScreen => [.machine .clearScreen]
  | .acknowledge => [.machine .acknowledge]
  | .takeBytes => [.machine .acknowledge]
  | .takePicture scale _ _ => if scale < 1 then [] else [.machine .acknowledge]

/-- The operation that does what a request does. -/
def Request.operations : Request → List Operation
  | .operate operation => [operation]
  | .give command => command.operations
  | .look _ => []

/-- A command leaves what its operation leaves. -/
lemma leaves_perform (command : Command) (session : Session) :
    leaves (perform command session) = session.operateAll command.operations := by
  cases command
  case cycle keys => rw [perform, leaves_map]; rfl
  case step => rw [perform, leaves_map, leaves_adaptExcept]; rfl
  case run budget untilKeyWait => rw [perform, leaves_map, leaves_adaptExcept]; rfl
  case runUntil address budget => rw [perform, leaves_map, leaves_adaptExcept]; rfl
  case setKeys keys =>
    show _ = session.mapMachine (·.latch (Keypad.ofList keys))
    rw [perform, run_bind, setKeys, run_tryKeypad]
    cases Keypad.ofList keys <;> rfl
  case press key =>
    show _ = session.mapMachine fun machine =>
      machine.latch (key.resolve.map (machine.keypad.set · true))
    rw [perform, run_bind, run_tryKeypad, Keypad.press]
    cases key.resolve <;> rfl
  case release key =>
    show _ = session.mapMachine fun machine =>
      machine.latch (key.resolve.map (machine.keypad.set · false))
    rw [perform, run_bind, run_tryKeypad, Keypad.release]
    cases key.resolve <;> rfl
  case read address count =>
    rw [perform, run_bind, run_get]
    dsimp only
    cases session.machine.memory.readBytes address count <;> rfl
  case write address number =>
    show _ = session.mapMachine fun machine =>
      machine.remember (machine.memory.write address (.ofInt number))
    simp only [perform, run_bind, tryMachine, mapMachine]
    cases session.machine.memory.write address (.ofInt number) <;> rfl
  case assignV register number =>
    simp only [perform, run_bind, tryMachine, Processor.assignV, Command.operations]
    cases Place.ofIndex? register <;> rfl
  case execute word =>
    show _ = session.mapMachine (·.operate (.execute word.toNat))
    simp only [mapMachine, Machine.operate, Raw.ofInt_toNat16, perform]
    cases session.machine.execute word <;> rfl
  case takePicture scale on off =>
    rw [perform, leaves_map, Command.operations]
    unfold onScreen Screen.takePicture
    dsimp only
    by_cases small : scale < 1
    · rw [if_pos small, if_pos small]
      rfl
    · rw [if_neg small, if_neg small]
      cases session.machine.screen.picture scale.toNat on off <;> rfl
  all_goals rfl

lemma leaves_serve (request : Request) (session : Session) :
    leaves (serve request session) = session.operateAll request.operations := by
  cases request with
  | operate operation =>
    rw [serve, leaves_map, leaves_respond]
    rfl
  | give command => rw [serve, leaves_map, leaves_perform, Request.operations]
  | look view =>
    unfold serve
    dsimp only
    cases session.look view <;> rfl

lemma serveAll_cons (session : Session) (request : Request) (rest : List Request) :
    session.serveAll (request :: rest) = (session.operateAll request.operations).serveAll rest := by
  rw [serveAll, List.foldl_cons, leaves_serve]
  rfl

lemma operateAll_append (session : Session) (earlier later : List Operation) :
    session.operateAll (earlier ++ later) = (session.operateAll earlier).operateAll later :=
  List.foldl_append

/-- Requests leave what their operations leave. -/
theorem serveAll_eq (requests : List Request) (session : Session) :
    session.serveAll requests = session.operateAll (requests.flatMap Request.operations) := by
  induction requests generalizing session with
  | nil => rfl
  | cons request rest ih => rw [serveAll_cons, List.flatMap_cons, operateAll_append, ih]

end Session

end Chip8
