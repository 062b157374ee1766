import Chip8.Session.Run

/-!
# Commands of a host

Everything a host can ask of a session, and the answers. A command that is refused or faults
leaves the session in the state that the host goes on with.
-/

namespace Chip8

/-- A request of the host. -/
inductive Session.Command
  /-- One cycle, with all keys set first if they are given. -/
  | cycle (keys : Option (List Bool))
  | step
  | run (budget : Int) (untilKeyWait : Bool)
  | runUntil (address budget : Int)
  /-- Counts the timers down once. -/
  | tick
  | reset
  | addBreakpoint (address : Int)
  | removeBreakpoint (address : Int)
  | clearBreakpoints
  | requestStop
  | setKeys (keys : List Bool)
  | press (key : KeyReference)
  | release (key : KeyReference)
  | read (address count : Int)
  | write (address number : Int)
  | assignV (register number : Int)
  | assign (register : Processor.Special) (number : Int)
  /-- Executes the instruction of a word, past debugger and counters. -/
  | execute (word : UInt16)
  | draw (x y : Int) (rows : List Int) (wrap : Bool)
  | clearScreen
  | acknowledge
  /-- Shows the screen as bytes. -/
  | takeBytes
  /-- Shows the screen as a picture. -/
  | takePicture (scale : Int) (on off : Paint)
deriving DecidableEq, Repr

/-- What a command gives back. -/
inductive Session.Answer
  | done
  | truth (value : Bool)
  | event (event : StopEvent)
  | bytes (bytes : List UInt8)
  | picture (raster : Raster)
deriving DecidableEq, Repr

namespace Session

/-- Changes the machine by something that may be refused. -/
def tryMachine (change : Machine → Except Error Machine) : EStateM Error Session Unit :=
  fun session =>
    match change session.machine with
    | .ok machine => .ok () { session with machine }
    | .error error => .error error session

/-- Sets the keypad to what a host asks for, if that makes sense. -/
def tryKeypad (change : Keypad → Except Misuse Keypad) : EStateM Error Session Unit :=
  tryMachine fun machine =>
    match change machine.keypad with
    | .ok keypad => .ok { machine with keypad }
    | .error misuse => .error (.misuse misuse)

/-- Does something with the screen that may be refused. -/
def onScreen {α : Type} (action : EStateM Misuse Screen α) : EStateM Error Session α :=
  fun session =>
    let put (screen : Screen) : Session := session.mapMachine ({ · with screen })
    match action session.machine.screen with
    | .ok answer screen => .ok answer (put screen)
    | .error misuse screen => .error (.misuse misuse) (put screen)

/-- Sets all keys. -/
def setKeys (keys : List Bool) : EStateM Error Session Unit :=
  tryKeypad fun _ => Keypad.ofList keys

/-- Sets all keys if they are given, and runs one cycle. -/
def cycleWith (keys : Option (List Bool)) : EStateM Error Session Bool := do
  if let some states := keys then setKeys states
  EStateM.adaptExcept .fault cycle

/-- Carries a command out. -/
def perform : Command → EStateM Error Session Answer
  | .cycle keys => .truth <$> cycleWith keys
  | .step => .event <$> step.adaptExcept .fault
  | .run budget untilKeyWait => .event <$> (run budget untilKeyWait).adaptExcept .fault
  | .runUntil address budget => .truth <$> (runUntil address budget).adaptExcept .fault
  | .tick => do
    modify (·.mapMachine .tick)
    return .done
  | .reset => do
    modify reset
    return .done
  | .addBreakpoint address => do
    modify (·.mapDebugger (·.addBreakpoint address))
    return .done
  | .removeBreakpoint address => do
    modify (·.mapDebugger (·.removeBreakpoint address))
    return .done
  | .clearBreakpoints => do
    modify (·.mapDebugger fun _ => .idle)
    return .done
  | .requestStop => do
    modify (·.mapDebugger .requestStop)
    return .done
  | .setKeys keys => do
    setKeys keys
    return .done
  | .press key => do
    tryKeypad (·.press key)
    return .done
  | .release key => do
    tryKeypad (·.release key)
    return .done
  | .read address count => do
    match (← get).machine.memory.readBytes address count with
    | .ok bytes => return .bytes bytes
    | .error cause => throw (.fault { cause })
  | .write address number => do
    tryMachine fun machine =>
      match machine.memory.write address (.ofInt number) with
      | .ok memory => .ok { machine with memory }
      | .error cause => .error (.fault { cause })
    return .done
  | .assignV register number => do
    tryMachine fun machine =>
      match machine.processor.assignV register number with
      | .ok processor => .ok { machine with processor }
      | .error misuse => .error (.misuse misuse)
    return .done
  | .assign register number => do
    modify (·.mapMachine (·.mapProcessor (·.assign register number)))
    return .done
  | .execute word => fun session =>
    match session.machine.execute word with
    | .ok () machine => .ok .done { session with machine }
    | .error fault machine => .error (.fault fault) { session with machine }
  | .draw x y rows wrap => do
    let session ← get
    let (collision, screen) := session.machine.screen.draw x y rows wrap
    set { session with machine := { session.machine with screen } }
    return .truth collision
  | .clearScreen => do
    modify (·.mapMachine ({ · with screen := .blank }))
    return .done
  | .acknowledge => do
    modify (·.mapMachine fun machine => { machine with screen := machine.screen.acknowledge })
    return .done
  | .takeBytes => do
    let session ← get
    let (bytes, screen) := session.machine.screen.takeBytes
    set { session with machine := { session.machine with screen } }
    return .bytes bytes
  | .takePicture scale on off => .picture <$> onScreen (Screen.takePicture scale on off)

end Session

end Chip8
