import Chip8.CommandLine.Invocation
import Chip8.CommandLine.Trouble
import Chip8.Session.Run

/-!
# Reports

What a run of the command line prints. Standard output gets the reason of an early stop, the
screen and the registers; standard error gets the log and the troubles. A verbose log tells more
and begins every line with its level.
-/

namespace Chip8

/-! ## The log -/

/-- What is worth logging. -/
inductive Notice
  | loaded (size : Nat)
  | waitingForKey (x : Register) (pc : Nat)
  | keyReceived (key : Key) (x : Register)
  | stopped (event : StopEvent)
  | ran (cycles : Nat) (pc : Nat) (event : StopEvent)
  | wrote (path : String)
deriving DecidableEq, Repr

namespace Notice

/-- A register in the log. -/
def registerText (x : Register) : String := "V" ++ Numeral.hex 1 x.val

/-- The notice in words. -/
def text : Notice → String
  | loaded size => s!"Loaded {size}-byte ROM at $0200"
  | waitingForKey x pc =>
    "Waiting for key into " ++ registerText x ++ " at " ++ Numeral.word pc
  | keyReceived key x =>
    "Key " ++ Numeral.hex 1 key.val ++ " received into " ++ registerText x
  | stopped event => "Stopped: " ++ event.text
  | ran cycles pc event =>
    s!"Ran {cycles} cycles, stopped at " ++ Numeral.word pc ++ ": " ++ event.text
  | wrote path => "Wrote " ++ path

/-- Whether a notice is also logged by a run that is not verbose. -/
def isSummary : Notice → Bool
  | ran _ _ _ => true
  | _ => false

/-- The line of the log, if the notice is logged. -/
def line (verbose : Bool) (notice : Notice) : String :=
  if verbose then
    (if notice.isSummary then "INFO: " else "DEBUG: ") ++ notice.text ++ "\n"
  else if notice.isSummary then notice.text ++ "\n"
  else ""

end Notice

namespace Session

/-- What the next cycle has to say about keys: that a wait begins, or that it ends. -/
def keyNotice? (session : Session) : Option Notice :=
  let first := session.machine.keypad.lowestDown?
  if session.machine.isWaiting then
    first.map (.keyReceived · session.machine.processor.keyRegister)
  else
    match session.machine.upcoming?.map Instruction.decode with
    | some (.awaitKey x) =>
      match first with
      | some key => some (.keyReceived key x)
      | none => some (.waitingForKey x session.pc.toNat)
    | _ => none

/-- Adds what a run of some cycles has to say about keys to what was found before, the newest
notice first. -/
def keyNotices (found : List Notice) (session : Session) : Nat → List Notice
  | 0 => found
  | budget + 1 =>
    match session.cycle with
    | .ok true next => keyNotices (session.keyNotice?.toList ++ found) next budget
    | .ok false _ => found
    | .error _ _ => found

end Session

/-! ## Reports -/

/-- What a run prints, how it exits, and which picture it leaves. -/
structure Report where
  exitCode : Nat
  out : String := ""
  err : String := ""
  picture : Option (String × Raster) := none

namespace Report

/-- How the program is used, in short. -/
def usage : String := "Usage: chip8run [OPTIONS] ROM\nTry 'chip8run --help' for help.\n\n"

/-- What is said about arguments that are refused. -/
def ofUsageError (error : UsageError) : Report where
  exitCode := error.exitCode
  err :=
    if error.isSilent then ""
    else (if error.remindsOfUsage then usage else "") ++ printed ("Error: " ++ error.message)

/-- The version of the program. -/
def version : Report where
  exitCode := Trouble.success
  out := "chip8run, version 1.0.0\n"

/-- How the program is used. -/
def help : Report where
  exitCode := Trouble.success
  out := "\n".intercalate [
    "Usage: chip8run [OPTIONS] ROM",
    "",
    "  Run a CHIP-8 ROM headless and dump its screen.",
    "",
    "  ROM is the program image, loaded at $200.",
    "",
    "Options:",
    "  -n, --cycles INTEGER RANGE  Number of cycles to run  [default: 1000; x>=0]",
    "  -k, --key TEXT              Key held down for the whole run:",
    "                              1234/QWER/ASDF/ZXCV or 0x0-0xF (repeatable)",
    "  --wrap                      Wrap sprites at the screen edges instead of",
    "                              clipping them",
    "  --seed INTEGER              Seed for the random number instruction (CXNN)",
    "  -b, --break TEXT            Stop before executing the instruction at ADDR",
    "                              ($hex, 0xhex or decimal; repeatable)",
    "  --show / --no-show          Print the screen as text after the run (default:",
    "                              enabled)",
    "  --png FILE                  Write the screen to a PNG file",
    "  --scale INTEGER RANGE       Pixel scale factor for --png  [default: 8; x>=1]",
    "  -v, --verbose               Verbose output (debug logging)",
    "  --version                   Show the version and exit.",
    "  --help                      Show this message and exit.",
    ""]

/-- What is printed about a session that ran to the end. -/
def output (invocation : Invocation) (session : Session) (event : StopEvent) : String :=
  (if event.reason = .budget then "" else "Stopped: " ++ event.text ++ "\n") ++
    (if invocation.showScreen then session.machine.screen.text ++ "\n" else "") ++
    session.machine.processor.dump.summary ++ "\n"

/-- The session that an invocation asks for, before it runs. -/
def prepare (invocation : Invocation) (random : RandomSource)
    (image : Except Error (List UInt8)) : Except Error Session := do
  let settings := { romPath := some invocation.rom, spritesWrap := invocation.wrap }
  let session ← Session.start settings random image
  let pressed := invocation.keys.foldl (·.set · true) session.machine.keypad
  return { session with
    machine := { session.machine with keypad := pressed }
    debugger := invocation.breakpoints.foldl (fun debugger address =>
      debugger.addBreakpoint address.val) session.debugger }

/-- Adds a trouble with the picture to the report of a run. -/
def withTrouble (report : Report) (verbose : Bool) (trouble : Trouble) : Report where
  exitCode := trouble.exitCode
  out := report.out
  err := report.err ++ trouble.report verbose

/-- Adds to the report of a run the picture that an invocation asks for. -/
def withPicture (report : Report) (invocation : Invocation) (screen : Screen) : Report :=
  match invocation.picture with
  | none => report
  | some path =>
    match Screen.takePicture invocation.scale .white .black screen with
    | .ok raster _ => { report with picture := some (path, raster) }
    | .error misuse _ => report.withTrouble invocation.verbose (.ofError (.misuse misuse))

/-- Runs what an invocation asks for. -/
def ofInvocation (invocation : Invocation) (random : RandomSource)
    (image : Except Error (List UInt8)) : Report :=
  let verbose := invocation.verbose
  let log (notices : List Notice) : String := String.join (notices.map (·.line verbose))
  let failed (before : List Notice) (trouble : Trouble) : Report :=
    { exitCode := trouble.exitCode, err := log before ++ trouble.report verbose }
  match prepare invocation random image with
  | .error error => failed [] (.ofError error)
  | .ok session =>
    let keys := if verbose then (session.keyNotices [] invocation.cycles).reverse else []
    let begun := .loaded session.rom.bytes.length :: keys
    match Session.run invocation.cycles false session with
    | .error fault _ => failed begun (.fault fault)
    | .ok event finished =>
      let stop := if event.reason = .budget then [] else [.stopped event]
      let ran := .ran finished.cycles finished.pc.toNat event
      let report : Report := {
        exitCode := Trouble.success
        out := output invocation finished event
        err := log (begun ++ stop ++ [ran]) }
      report.withPicture invocation finished.machine.screen

/-- Adds to the report of a run that the picture, if there is one, has been written. -/
def withWritten (report : Report) (verbose : Bool) : Report :=
  match report.picture with
  | some (path, _) => { report with err := report.err ++ (Notice.wrote path).line verbose }
  | none => report

/-- Why a file cannot be written, if it cannot. A file that is there can be written over; one that
is not can be created in a directory that is there. -/
def writeTrouble? (files : String → Entry) (path : String) : Option Trouble :=
  match files path with
  | .file _ => none
  | .directory => some (.unforeseen ("[Errno 21] Is a directory: " ++ quoted path))
  | .blocked => some (.unforeseen ("[Errno 20] Not a directory: " ++ quoted path))
  | .tooLong => some (.unforeseen ("[Errno 36] File name too long: " ++ quoted path))
  | .invalid => some (.argument Misuse.invalidPath.message)
  | .missing =>
    if files (Path.parent path) = .directory then none
    else some (.file ("[Errno 2] No such file or directory: " ++ quoted path))

end Report

/-- Reads the image at a path. -/
def Entry.image (path : String) : Entry → Except Error (List UInt8)
  | .file bytes => .ok bytes
  | .directory => unreadable "Is a directory"
  | .missing => unreadable "No such file or directory"
  | .blocked => unreadable "Not a directory"
  | .tooLong => unreadable "File name too long"
  | .invalid => .error (.misuse .invalidPath)
where
  unreadable (reason : String) : Except Error (List UInt8) :=
    .error (.load { failure := .unreadable reason, path })

namespace Report

/-- Finds out what arguments ask for. -/
def request (arguments : List String) (files : String → Entry) : Except UsageError Request :=
  match Arguments.scan none arguments with
  | .ok scanned => Request.ofArguments files scanned
  | .error error => .error (.form error)

/-- The paths that are looked up for some arguments: those they name, their normal forms, and the
directories of these. -/
def paths (arguments : List String) : List String :=
  match Arguments.scan none arguments with
  | .ok scanned => (Request.paths scanned).flatMap fun path =>
      [path, Path.normal path, Path.parent (Path.normal path)]
  | .error _ => []

/-- Runs the program with arguments in a place with files. The seed is used for random bytes if
the arguments give none. -/
def ofArguments (arguments : List String) (files : String → Entry) (seed : Int) : Report :=
  match request arguments files with
  | .error error => ofUsageError error
  | .ok .version => version
  | .ok .help => help
  | .ok (.run invocation) =>
    let random := RandomSource.seeded (invocation.seed.getD seed)
    let report := ofInvocation invocation random ((files invocation.rom).image invocation.rom)
    match report.picture.bind fun (path, _) => writeTrouble? files path with
    | some trouble => report.withTrouble invocation.verbose trouble
    | none => report.withWritten invocation.verbose

end Report

end Chip8
