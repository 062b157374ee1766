import Chip8.CommandLine.Report
import Chip8.Proofs.BreakpointChecks
import Chip8.Proofs.Keypads
import Chip8.Proofs.OptionOrder
import Chip8.Proofs.PlainText
import Chip8.Proofs.Reset
import Chip8.Proofs.RunSplitting

/-!
# What the command line reports

The command line starts a session with the image, presses the keys and sets the breakpoints, as a
host would by commands (`prepare_eq`), and runs it. What it prints is a list of lines
(`output_eq`). The session depends on keys and breakpoints only as far as which there are
(`prepare_congr`), so the report does not depend on their order or on how often they are given.
-/

namespace Chip8

/-! ## Keys and breakpoints -/

namespace Debugger

lemma foldl_addBreakpoint (addresses : List (Fin 4096)) (debugger : Debugger) :
    ∃ breakpoints : AddressSet,
      addresses.foldl (fun debugger address => debugger.addBreakpoint address.val) debugger =
        { debugger with breakpoints } ∧
      ∀ address, breakpoints.contains address =
        (addresses.contains address || debugger.breakpoints.contains address) := by
  induction addresses generalizing debugger with
  | nil => exact ⟨debugger.breakpoints, rfl, fun _ => rfl⟩
  | cons first rest ih =>
    obtain ⟨breakpoints, added, contained⟩ := ih (debugger.addBreakpoint first.val)
    refine ⟨breakpoints, added, fun address => ?_⟩
    have reduced : AddressSet.reduce first.val = first := Fin.ext (AddressSet.val_reduce first.isLt)
    have set : (debugger.addBreakpoint first.val).breakpoints.contains address =
        (address == first || debugger.breakpoints.contains address) := by
      unfold addBreakpoint
      rw [reduced, AddressSet.contains_insert]
    rw [contained, set, List.contains_cons, Bool.or_left_comm, Bool.or_assoc]

end Debugger

/-- The commands by which a host sets up what an invocation asks for. -/
def Invocation.commands (invocation : Invocation) : List Session.Command :=
  (invocation.keys.map fun key => .press (.code key.val)) ++
    invocation.breakpoints.map fun address => .addBreakpoint address.val

namespace Session

lemma after_press (session : Session) (key : Key) :
    session.after (.press (.code key.val)) =
      session.withKeypad (session.machine.keypad.set key true) := by
  have resolved : KeyReference.resolve (.code key.val) = .ok key := by
    have known : Place.ofNumber? key.val = some key := dif_pos (by omega)
    unfold KeyReference.resolve
    dsimp only
    rw [known]
  rw [after, perform, run_bind, run_tryKeypad, Keypad.press, resolved]
  rfl

lemma afterAll_press (keys : List Key) (session : Session) :
    session.afterAll (keys.map fun key => .press (.code key.val)) =
      session.withKeypad (keys.foldl (·.set · true) session.machine.keypad) := by
  induction keys generalizing session with
  | nil => rfl
  | cons key rest ih =>
    have pressed := ih (session.after (.press (.code key.val)))
    rw [after_press] at pressed
    rw [List.map_cons, afterAll, List.foldl_cons, after_press]
    exact pressed

lemma afterAll_addBreakpoint (addresses : List (Fin 4096)) (session : Session) :
    session.afterAll (addresses.map fun address => .addBreakpoint address.val) =
      session.mapDebugger fun debugger =>
        addresses.foldl (fun debugger address => debugger.addBreakpoint address.val) debugger := by
  induction addresses generalizing session with
  | nil => rfl
  | cons address rest ih => exact ih (session.mapDebugger (·.addBreakpoint address.val))

end Session

namespace Report

variable {invocation : Invocation} {random : RandomSource} {image : Except Error (List UInt8)}

/-- The session that runs has been set up by commands. -/
lemma prepare_eq (invocation : Invocation) (random : RandomSource)
    (image : Except Error (List UInt8)) :
    prepare invocation random image =
      (Session.start { romPath := some invocation.rom, spritesWrap := invocation.wrap } random
        image).map (·.afterAll invocation.commands) := by
  unfold prepare
  dsimp only
  cases Session.start { romPath := some invocation.rom, spritesWrap := invocation.wrap } random
    image with
  | error error => rfl
  | ok session =>
    have both : session.afterAll invocation.commands =
        (session.afterAll (invocation.keys.map fun key => .press (.code key.val))).afterAll
          (invocation.breakpoints.map fun address => .addBreakpoint address.val) :=
      List.foldl_append
    show _ = Except.ok (session.afterAll invocation.commands)
    rw [both, Session.afterAll_press, Session.afterAll_addBreakpoint]
    rfl

lemma prepare_of_error {error : Error}
    (failed : Session.start { romPath := some invocation.rom, spritesWrap := invocation.wrap } random
      image = .error error) : prepare invocation random image = .error error := by
  rw [prepare_eq, failed]
  rfl

/-- The session that runs depends on keys and breakpoints only as far as which there are. -/
lemma prepare_congr {keys : List Key} {breakpoints : List (Fin 4096)}
    (sameKeys : ∀ key, key ∈ keys ↔ key ∈ invocation.keys)
    (sameBreakpoints : ∀ address, address ∈ breakpoints ↔ address ∈ invocation.breakpoints) :
    prepare { invocation with keys, breakpoints } random image =
      prepare invocation random image := by
  unfold prepare
  dsimp only
  cases Session.start { romPath := some invocation.rom, spritesWrap := invocation.wrap } random
    image with
  | error error => rfl
  | ok session =>
    have pressed : keys.foldl (·.set · true) session.machine.keypad =
        invocation.keys.foldl (·.set · true) session.machine.keypad :=
      Keypad.pressKeys_congr sameKeys
    have added : breakpoints.foldl (fun debugger address => debugger.addBreakpoint address.val)
          session.debugger =
        invocation.breakpoints.foldl (fun debugger address => debugger.addBreakpoint address.val)
          session.debugger := by
      obtain ⟨set, left, contained⟩ := Debugger.foldl_addBreakpoint breakpoints session.debugger
      obtain ⟨set', left', contained'⟩ :=
        Debugger.foldl_addBreakpoint invocation.breakpoints session.debugger
      have equal : set = set' := AddressSet.eq_of_contains fun address => by
        simp only [contained, contained', Bool.or_eq_true, List.contains_iff_mem, sameBreakpoints]
      rw [left, left', equal]
    show Except.ok _ = Except.ok _
    rw [pressed, added]

end Report

/-! ## Lines -/

/-- Lines that are ended are lines with line breaks between them and one more. -/
lemma join_ended {lines : List String} (nonempty : lines ≠ []) :
    String.join (lines.map (· ++ "\n")) = "\n".intercalate lines ++ "\n" := by
  induction lines with
  | nil => exact absurd rfl nonempty
  | cons first rest ih =>
    cases rest with
    | nil =>
      rw [List.map_singleton, String.join_cons, String.join_nil, String.append_empty,
        String.intercalate_singleton]
    | cons second rest =>
      rw [List.map_cons, String.join_cons, ih (List.cons_ne_nil _ _), String.intercalate_cons_cons,
        String.append_assoc, String.append_assoc, String.append_assoc]

/-- The screen as lines of text, from top to bottom. -/
def Screen.lines (screen : Screen) : List String :=
  screen.rows.map fun row => String.join (row.map fun lit => if lit then "#" else ".")

lemma Screen.length_lines (screen : Screen) : screen.lines.length = 32 := by
  rw [lines, List.length_map, rows, List.length_map, List.length_finRange]

/-- The lines about a session that ran to the end: why it was stopped, if it was, the screen, if it
is wanted, and the registers. -/
def Report.lines (invocation : Invocation) (session : Session) (event : StopEvent) : List String :=
  let dump := session.machine.processor.dump
  (if event.reason = .budget then [] else ["Stopped: " ++ event.text]) ++
    (if invocation.showScreen then session.machine.screen.lines else []) ++
    [dump.generalLine, dump.stateLine]

namespace Report

variable {invocation : Invocation} {random : RandomSource} {image : Except Error (List UInt8)}

/-- A part that is there on a condition is printed on that condition. -/
lemma join_ended_ite (condition : Prop) [Decidable condition] (left right : List String) :
    String.join ((if condition then left else right).map (· ++ "\n")) =
      if condition then String.join (left.map (· ++ "\n"))
      else String.join (right.map (· ++ "\n")) := by
  split <;> rfl

lemma output_eq (invocation : Invocation) (session : Session) (event : StopEvent) :
    output invocation session event =
      String.join ((lines invocation session event).map (· ++ "\n")) := by
  have shown : session.machine.screen.text ++ "\n" =
      String.join (session.machine.screen.lines.map (· ++ "\n")) := by
    have nonempty : session.machine.screen.lines ≠ [] := fun isEmpty => by
      have length := session.machine.screen.length_lines
      rw [isEmpty] at length
      cases length
    rw [join_ended nonempty]
    rfl
  unfold output lines
  dsimp only
  simp only [List.map_append, String.join_append, join_ended_ite, List.map_cons, List.map_nil,
    String.join_cons, String.join_nil, String.append_empty, ← shown, RegisterDump.summary,
    String.append_assoc]

end Report

/-! ## The report of a run -/

namespace Session

variable {path : Option String} {spritesWrap : Bool} {random : RandomSource} {bytes : List UInt8}

lemma start_of_tooLarge (tooLarge : 3584 < bytes.length) :
    start { romPath := path, spritesWrap } random (.ok bytes) =
      .error (.load { failure := .tooLarge bytes.length, path }) := by
  have refused : Rom.ofBytes bytes = .error (.tooLarge bytes.length) :=
    dif_neg (Nat.not_le_of_gt tooLarge)
  unfold start
  simp only [Except.bind, Rom.ofFile, refused]
  rfl

lemma start_of_fits (fits : bytes.length ≤ 3584) :
    ∃ session, start { romPath := path, spritesWrap } random (.ok bytes) = .ok session :=
  ⟨_, @start_of_rom { romPath := path, spritesWrap } Nat.one_pos ⟨bytes, fits⟩ random⟩

/-- What is said about a fault that ends a run is plain. -/
lemma isPlain_of_run {budget : Int} {untilKeyWait : Bool} {session after : Session} {fault : Fault}
    (faulted : run budget untilKeyWait session = .error fault after) : IsPlain fault.message := by
  have ends := ends_run budget untilKeyWait session
  rw [faulted] at ends
  exact Fault.isPlain_message (Machine.isForeign_of_fault? ends.2)

end Session

namespace Trouble

lemma report_fault (verbose : Bool) (fault : Fault) :
    (Trouble.fault fault).report verbose = printed fault.message :=
  String.append_empty

lemma report_load (verbose : Bool) (error : LoadError) :
    (Trouble.ofError (.load error)).report verbose = printed ("Error: " ++ error.message) :=
  String.append_empty

end Trouble

namespace Report

variable {invocation : Invocation} {random : RandomSource} {image : Except Error (List UInt8)}

/-- An image that fits can be run. -/
lemma prepare_of_fits {bytes : List UInt8} (fits : bytes.length ≤ 3584) :
    ∃ initial,
      Session.start { romPath := some invocation.rom, spritesWrap := invocation.wrap } random
        (.ok bytes) = .ok initial ∧
      prepare invocation random (.ok bytes) = .ok (initial.afterAll invocation.commands) := by
  obtain ⟨initial, began⟩ :=
    @Session.start_of_fits (some invocation.rom) invocation.wrap random bytes fits
  refine ⟨initial, began, ?_⟩
  rw [prepare_eq, began]
  rfl

/-- The report of a run whose session could not be set up. -/
lemma ofInvocation_of_error {error : Error}
    (failed : prepare invocation random image = .error error) :
    ofInvocation invocation random image =
      { exitCode := (Trouble.ofError error).exitCode
        err := (Trouble.ofError error).report invocation.verbose } := by
  unfold ofInvocation
  simp only [failed, List.map_nil, String.join_nil, String.empty_append]

/-- The report of a run that faults. What is said about the fault is printed as it is. -/
lemma ofInvocation_of_fault {session finished : Session} {fault : Fault}
    (prepared : prepare invocation random image = .ok session)
    (faulted : Session.run invocation.cycles false session = .error fault finished) :
    ∃ log, ofInvocation invocation random image =
      { exitCode := 1, err := log ++ (fault.message ++ "\n") } := by
  rw [← printed_of_isPlain (Session.isPlain_of_run faulted)]
  unfold ofInvocation
  simp only [prepared, faulted]
  rw [Trouble.report_fault]
  exact ⟨_, rfl⟩

/-- The report of a run to the end, without a picture. -/
lemma ofInvocation_of_ok {session finished : Session} {event : StopEvent}
    (unpictured : invocation.picture = none)
    (prepared : prepare invocation random image = .ok session)
    (ran : Session.run invocation.cycles false session = .ok event finished) :
    ∃ log, ofInvocation invocation random image =
      { exitCode := 0
        out := String.join ((lines invocation finished event).map (· ++ "\n"))
        err := log } := by
  rw [← output_eq]
  unfold ofInvocation
  simp only [prepared, ran, withPicture, unpictured]
  exact ⟨_, rfl⟩

/-- The report depends on keys and breakpoints only as far as which there are. -/
lemma ofInvocation_congr {keys : List Key} {breakpoints : List (Fin 4096)}
    (sameKeys : ∀ key, key ∈ keys ↔ key ∈ invocation.keys)
    (sameBreakpoints : ∀ address, address ∈ breakpoints ↔ address ∈ invocation.breakpoints) :
    ofInvocation { invocation with keys, breakpoints } random image =
      ofInvocation invocation random image := by
  unfold ofInvocation
  rw [prepare_congr sameKeys sameBreakpoints]
  rfl

lemma picture_ofInvocation (unpictured : invocation.picture = none) :
    (ofInvocation invocation random image).picture = none := by
  cases prepared : prepare invocation random image with
  | error error => rw [ofInvocation_of_error prepared]
  | ok session =>
    cases ran : Session.run invocation.cycles false session with
    | error fault finished =>
      obtain ⟨log, report⟩ := ofInvocation_of_fault prepared ran
      rw [report]
    | ok event finished =>
      obtain ⟨log, report⟩ := ofInvocation_of_ok unpictured prepared ran
      rw [report]

lemma exitCode_ofInvocation {bytes : List UInt8} (unpictured : invocation.picture = none) :
    (ofInvocation invocation random (.ok bytes)).exitCode = 0 ∨
      (ofInvocation invocation random (.ok bytes)).exitCode = 1 := by
  rcases Nat.lt_or_ge 3584 bytes.length with large | fits
  · rw [ofInvocation_of_error (prepare_of_error (Session.start_of_tooLarge large))]
    exact .inr rfl
  · obtain ⟨initial, -, prepared⟩ := @prepare_of_fits invocation random bytes fits
    cases ran : Session.run invocation.cycles false (initial.afterAll invocation.commands) with
    | error fault finished =>
      obtain ⟨log, same⟩ := ofInvocation_of_fault prepared ran
      exact .inr (congrArg exitCode same)
    | ok event finished =>
      obtain ⟨log, same⟩ := ofInvocation_of_ok unpictured prepared ran
      exact .inl (congrArg exitCode same)

lemma ofArguments_of_run {arguments : List String} {files : String → Entry} (seed : Int)
    (asked : request arguments files = .ok (.run invocation))
    (unpictured : invocation.picture = none) :
    ofArguments arguments files seed =
      ofInvocation invocation (.seeded (invocation.seed.getD seed))
        ((files invocation.rom).image invocation.rom) := by
  unfold ofArguments
  simp only [asked, picture_ofInvocation unpictured, Option.bind_none, withWritten]

/-- The report does not depend on the order of keys and breakpoints, nor on how often they are
given. -/
lemma ofArguments_of_isRearranged {arguments others : List String} {files : String → Entry}
    {scanned scannedOthers : Arguments} (seed : Int)
    (asked : request arguments files = .ok (.run invocation))
    (read : Arguments.scan none arguments = .ok scanned)
    (readOthers : Arguments.scan none others = .ok scannedOthers)
    (same : scanned.IsRearranged scannedOthers) :
    ofArguments others files seed = ofArguments arguments files seed := by
  have asks : Request.ofArguments files scanned = .ok (.run invocation) := by
    unfold request at asked
    rwa [read] at asked
  obtain ⟨keys, breakpoints, asksToo, sameKeys, sameBreakpoints⟩ :=
    Request.ofArguments_of_isRearranged same asks
  have askedToo : request others files = .ok (.run { invocation with keys, breakpoints }) := by
    unfold request
    rwa [readOthers]
  unfold ofArguments
  simp only [asked, askedToo, ofInvocation_congr sameKeys sameBreakpoints]

/-! ## The theorem -/

/-- The command line reports the run that it was asked for. Let it be asked, without a picture, to
run an image that can be read, and take a session started with that image, that seed and that
wrapping, in which a host has pressed the keys and added the breakpoints. If the image is too large
there is no such session: the program exits with 1, prints nothing on standard output, and ends
standard error with the diagnostic, which is printed as it is unless the path has an escape
character. If the run faults, the program exits with 1, prints nothing on standard output, and ends
standard error with the diagnostic of the fault. Otherwise it exits with 0 and prints the lines
about the session that the run leaves. No other exit code occurs. Nothing of this changes when keys
and breakpoints are given in another order or more than once. -/
theorem reports_the_run_asked_for {arguments : List String} {files : String → Entry}
    {bytes : List UInt8} (seed : Int)
    (asked : request arguments files = .ok (.run invocation))
    (readable : files invocation.rom = .file bytes) (unpictured : invocation.picture = none) :
    let report := ofArguments arguments files seed
    let started := Session.start { romPath := some invocation.rom, spritesWrap := invocation.wrap }
      (.seeded (invocation.seed.getD seed)) (.ok bytes)
    (report.exitCode = 0 ∨ report.exitCode = 1) ∧
    (3584 < bytes.length →
      let error : LoadError := { failure := .tooLarge bytes.length, path := some invocation.rom }
      started = .error (.load error) ∧ report.exitCode = 1 ∧ report.out = "" ∧
        report.err = printed ("Error: " ++ error.message) ∧
        (IsPlain invocation.rom → report.err = "Error: " ++ error.message ++ "\n")) ∧
    (bytes.length ≤ 3584 → ∃ initial, started = .ok initial ∧
      let outcome := Session.run invocation.cycles false (initial.afterAll invocation.commands)
      (∀ fault finished, outcome = .error fault finished →
        report.exitCode = 1 ∧ report.out = "" ∧
          ∃ log, report.err = log ++ (fault.message ++ "\n")) ∧
      ∀ event finished, outcome = .ok event finished →
        report.exitCode = 0 ∧
          report.out = String.join ((lines invocation finished event).map (· ++ "\n")) ∧
          finished.machine.screen.lines.length = 32) ∧
    ∀ (others : List String) (scanned scannedOthers : Arguments),
      Arguments.scan none arguments = .ok scanned →
      Arguments.scan none others = .ok scannedOthers → scanned.IsRearranged scannedOthers →
        ofArguments others files seed = report := by
  intro report started
  have whole : report =
      ofInvocation invocation (.seeded (invocation.seed.getD seed)) (.ok bytes) := by
    have run := ofArguments_of_run seed asked unpictured
    rwa [readable] at run
  refine ⟨?exits, fun large => ?refused, fun fits => ?runs, fun others scanned scannedOthers => ?same⟩
  case exits =>
    rw [whole]
    exact exitCode_ofInvocation unpictured
  case refused =>
    have failed : started = _ := Session.start_of_tooLarge large
    have same := whole.trans (ofInvocation_of_error (prepare_of_error failed))
    rw [Trouble.report_load] at same
    refine ⟨failed, congrArg exitCode same, congrArg out same, congrArg err same, fun plain => ?_⟩
    rw [congrArg err same, printed_of_isPlain (isPlain_append.2
      ⟨by decide, LoadError.isPlain_message_tooLarge plain bytes.length⟩)]
  case runs =>
    obtain ⟨initial, began, prepared⟩ := prepare_of_fits fits
    refine ⟨initial, began, fun fault finished ran => ?_, fun event finished ran => ?_⟩
    · obtain ⟨log, same⟩ := ofInvocation_of_fault prepared ran
      rw [whole, same]
      exact ⟨rfl, rfl, log, rfl⟩
    · obtain ⟨log, same⟩ := ofInvocation_of_ok unpictured prepared ran
      rw [whole, same]
      exact ⟨rfl, rfl, finished.machine.screen.length_lines⟩
  case same => exact ofArguments_of_isRearranged seed asked

/-- A program that sets a register is stopped before its second instruction, whichever way the
breakpoint and the key are given. -/
theorem reports_the_run_asked_for_watched :
    let files : String → Entry := fun _ => .file [0x61, 0x05, 0x00, 0xE0]
    let report := ofArguments ["r", "--no-show", "-k", "q", "-b", "0x202"] files 0
    report.exitCode = 0 ∧
      report.out = String.join [
        "Stopped: Breakpoint at $0202\n",
        "V0=00 V1=05 V2=00 V3=00 V4=00 V5=00 V6=00 V7=00 ",
        "V8=00 V9=00 VA=00 VB=00 VC=00 VD=00 VE=00 VF=00\n",
        "PC=$0202 I=$0000 SP=0 DT=0 ST=0\n"] ∧
      ofArguments ["-b", "0x202", "-k", "q", "--no-show", "-k", "q", "r"] files 0 = report := by
  intro files report
  have same : Arguments.IsRearranged
      { options := [.switch .screen false, .valued .keys "q", .valued .breakpoints "0x202"]
        others := ["r"] }
      { options := [.valued .breakpoints "0x202", .valued .keys "q", .switch .screen false,
          .valued .keys "q"]
        others := ["r"] } := by
    refine ⟨fun option => ?_, rfl, rfl⟩
    simp only [List.mem_cons, List.not_mem_nil, or_false]
    tauto
  have path : Path.normal "r" = "r" := by cbv
  have asked : request ["r", "--no-show", "-k", "q", "-b", "0x202"] files =
      .ok (.run {
        rom := Path.normal "r", keys := [4], breakpoints := [0x202], showScreen := false }) := rfl
  rw [path] at asked
  obtain ⟨-, -, ran, rearranged⟩ := reports_the_run_asked_for 0 asked rfl rfl
  obtain ⟨initial, began, -, finishes⟩ := ran (by decide)
  let rom : Rom := ⟨[0x61, 0x05, 0x00, 0xE0], by decide⟩
  have known := @Session.start_of_rom { romPath := some "r" } Nat.one_pos rom (.seeded 0)
  obtain rfl := Except.ok.inj (began.symm.trans known)
  let watched := (Session.powerOn rom 1 Nat.one_pos (.seeded 0) false).afterAll
    [.press (.code 4), .addBreakpoint 0x202]
  have stopped : Session.run 1000 false watched =
      .ok (Debugger.breakpointAt 0x202) (leaves (Session.run 1000 false watched)) :=
    Session.eq_of_report? (by decide +kernel)
  obtain ⟨exit, text, -⟩ := finishes _ _ stopped
  refine ⟨exit, text.trans ?_, rearranged _ _ _ rfl rfl same⟩
  decide +kernel

/-- Not every diagnostic of an image that is too large is printed as it is: one with a path that
holds a control sequence is not. -/
theorem load_error_is_not_verbatim :
    ¬∀ (arguments : List String) (files : String → Entry) (invocation : Invocation)
      (bytes : List UInt8) (seed : Int),
      request arguments files = .ok (.run invocation) → files invocation.rom = .file bytes →
      invocation.picture = none → 3584 < bytes.length →
        ∃ log, (ofArguments arguments files seed).err =
          log ++ ("Error: " ++ LoadError.message
            { failure := .tooLarge bytes.length, path := some invocation.rom } ++ "\n") := by
  intro always
  obtain ⟨bytes, size⟩ : ∃ bytes : List UInt8, bytes.length = 3585 :=
    ⟨List.replicate 3585 0, List.length_replicate⟩
  have large : 3584 < bytes.length := by omega
  have path : Path.normal "\x1b[m" = "\x1b[m" := by cbv
  have asked : request ["\x1b[m"] (fun _ => .file bytes) =
      .ok (.run { rom := Path.normal "\x1b[m" }) := rfl
  rw [path] at asked
  obtain ⟨log, ends⟩ := always _ _ _ bytes 0 asked rfl rfl large
  have failed := @Session.start_of_tooLarge (some "\x1b[m") false (.seeded 0) bytes large
  have same := (ofArguments_of_run 0 asked rfl).trans
    (ofInvocation_of_error (@prepare_of_error { rom := "\x1b[m" } _ _ _ failed))
  rw [same, Trouble.report_load, size] at ends
  dsimp only at ends
  have stripped : IsPlain (printed ("Error: " ++ LoadError.message
      { failure := .tooLarge 3585, path := some "\x1b[m" })) := by decide +kernel
  have verbatim := (isPlain_append.1 (ends ▸ stripped)).2
  exact absurd verbatim (by decide +kernel)

end Report

end Chip8
