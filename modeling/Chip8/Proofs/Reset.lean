import Chip8.Proofs.AlikeSessions
import Chip8.Proofs.BreakpointChecks
import Chip8.Proofs.Chronicle
import Chip8.Proofs.Frames
import Chip8.Proofs.WellFormedness

/-!
# A reset is a new start

After a reset nothing tells what happened before it. The session is alike to one that has just been
started with the same image and the same settings, whose source of random bytes goes on with the bytes
that remain, and in which the same breakpoints have been set (`reset_is_powerOn`). Whatever a host does
with both, they respond alike. The last report alone is older than the reset, until it is replaced or
forgotten.
-/

namespace Chip8

/-! ## What never changes -/

namespace Machine

lemma spritesWrap_step (machine : Machine) :
    (leaves machine.step).spritesWrap = machine.spritesWrap := by
  cases stepped : machine.step with
  | ok answer after =>
    obtain ⟨instruction, within, -⟩ := footprint_step stepped
    exact within.spritesWrap
  | error fault after => exact congrArg spritesWrap (step_of_error stepped)

/-- No operation changes whether sprites wrap around the edges. -/
lemma spritesWrap_operate (machine : Machine) (operation : Operation) :
    (machine.operate operation).spritesWrap = machine.spritesWrap := by
  cases operation
  case step => exact machine.spritesWrap_step
  case cycle =>
    have kept := machine.spritesWrap_step
    unfold operate
    rw [run_cycle]
    cases stepped : machine.step <;> rw [stepped] at kept <;> exact kept
  case execute word =>
    unfold operate execute
    dsimp only
    rw [leaves_adaptExcept]
    exact (footprint_perform _ machine).spritesWrap
  case write address number => exact part_remember spritesWrap (fun _ _ => rfl) machine _
  case writeBytes address data => exact part_remember spritesWrap (fun _ _ => rfl) machine _
  case loadRom rom => exact part_remember spritesWrap (fun _ _ => rfl) machine _
  case setKeys states => exact part_latch spritesWrap (fun _ _ => rfl) machine _
  case setKey reference isDown => exact part_latch spritesWrap (fun _ _ => rfl) machine _
  all_goals simp only [operate, mapProcessor, tick]

lemma spritesWrap_operateAll (operations : List Operation) (machine : Machine) :
    (machine.operateAll operations).spritesWrap = machine.spritesWrap := by
  induction operations generalizing machine with
  | nil => rfl
  | cons operation rest ih =>
    exact (ih (machine.operate operation)).trans (machine.spritesWrap_operate operation)

end Machine

namespace Session

/-! ## Setting breakpoints -/

/-- Setting breakpoints one after the other adds these and changes nothing else. -/
lemma operateAll_addBreakpoint (numbers : List Int) (session : Session) :
    ∃ breakpoints : AddressSet,
      (∀ address, breakpoints.contains address = true ↔
        session.debugger.breakpoints.contains address = true ∨
          ∃ number ∈ numbers, AddressSet.reduce number = address) ∧
      session.operateAll (numbers.map fun number => .debugger (.addBreakpoint number)) =
        session.mapDebugger ({ · with breakpoints }) := by
  induction numbers generalizing session with
  | nil => exact ⟨session.debugger.breakpoints, by simp, rfl⟩
  | cons number rest ih =>
    obtain ⟨breakpoints, members, added⟩ := ih (session.mapDebugger (·.addBreakpoint number))
    refine ⟨breakpoints, fun address => ?_, added⟩
    have here : (session.mapDebugger (·.addBreakpoint number)).debugger.breakpoints.contains
        address = true ↔ AddressSet.reduce number = address ∨
          session.debugger.breakpoints.contains address = true := by
      show (session.debugger.breakpoints.insert (AddressSet.reduce number)).contains address = true ↔
        AddressSet.reduce number = address ∨ session.debugger.breakpoints.contains address = true
      rw [AddressSet.contains_insert, Bool.or_eq_true, beq_iff_eq, eq_comm]
    rw [members, here, List.exists_mem_cons_iff]
    tauto

/-! ## Starting anew -/

/-- The image of a session starts a session again, under the same settings. -/
lemma start_of_rom {settings : Settings} (positive : 0 < settings.cyclesPerTick.toNat) (rom : Rom)
    (random : RandomSource) :
    start settings random (.ok rom.bytes) =
      .ok (powerOn rom settings.cyclesPerTick.toNat positive random settings.spritesWrap) := by
  refine start_eq_ok_iff.2 ⟨rom, positive, ?_, rfl⟩
  have accepted : Rom.ofBytes rom.bytes = .ok rom := dif_pos rom.fits
  unfold Except.bind Rom.ofFile
  dsimp only
  rw [accepted]

/-- A session that was reset is alike to one that has just been set up in the same way. -/
lemma alike_reset {session : Session} {rom : Rom} {cyclesPerTick : Nat}
    (positive : 0 < cyclesPerTick) {remaining : RandomSource} {spritesWrap : Bool}
    (sameRom : session.rom = rom) (samePeriod : session.cyclesPerTick = cyclesPerTick)
    (sameWrap : session.machine.spritesWrap = spritesWrap)
    (bytes : session.machine.random.SameBytes remaining) :
    Alike False session.reset
      ((powerOn rom cyclesPerTick positive remaining spritesWrap).mapDebugger
        ({ · with breakpoints := session.debugger.breakpoints })) := by
  subst sameRom samePeriod sameWrap
  exact ⟨rfl, rfl, ⟨rfl, bytes⟩, ⟨rfl, rfl, rfl, nofun⟩, rfl, rfl⟩

/-- A reset is a new start. Whatever a host has done with a session, resetting its parts one by one
brings it to the reset session, and that cannot be told from a session that is started with the same
bytes and the same settings, with a source that gives the random bytes that remain, and in which the
same breakpoints are set. Whatever the host does next with both, it finds the same images, machines and
counters, and every operation and every command gives the same response or the same error. The last
reports are the same from the first stop, run or clear on. -/
theorem reset_is_powerOn {settings : Settings} {random : RandomSource}
    {image : Except Error (List UInt8)} {initial : Session}
    (started : start settings random image = .ok initial) (operations : List Operation) :
    let session := initial.operateAll operations
    Raw.Session.reset (initial.toRaw.operateAll operations) = .ok () session.reset.toRaw ∧
    ∀ (remaining : RandomSource) (breakpoints : List Int),
      session.machine.random.SameBytes remaining →
      (∀ address, session.debugger.breakpoints.contains address = true ↔
        ∃ number ∈ breakpoints, AddressSet.reduce number = address) →
      ∃ fresh, start settings remaining image = .ok fresh ∧
        Raw.Session.start settings remaining session.rom.bytes = .ok fresh.toRaw ∧
        ∀ later : List Operation,
          let left := session.reset.operateAll later
          let right := (fresh.operateAll
            (breakpoints.map fun number => .debugger (.addBreakpoint number))).operateAll later
          Alike (session.reset.renewsAny later = true) left right ∧
          (∀ operation, outcome (respond operation left) = outcome (respond operation right)) ∧
          ∀ command, outcome (perform command left) = outcome (perform command right) := by
  intro session
  obtain ⟨rom, positive, read, rfl⟩ := start_eq_ok_iff.1 started
  have sameRom : session.rom = rom := (setup_operateAll operations _).1
  have samePeriod : session.cyclesPerTick = settings.cyclesPerTick.toNat :=
    (setup_operateAll operations _).2
  have sameWrap : session.machine.spritesWrap = settings.spritesWrap := by
    rw [machine_operateAll]
    exact Machine.spritesWrap_operateAll _ _
  constructor
  · rw [Raw.Session.toRaw_operateAll]
    exact Raw.Session.run_reset session
  · intro remaining breakpoints bytes members
    refine ⟨powerOn rom settings.cyclesPerTick.toNat positive remaining settings.spritesWrap,
      start_eq_ok_iff.2 ⟨rom, positive, read, rfl⟩, ?_, fun later => ?_⟩
    · rw [Raw.start_eq, sameRom, start_of_rom positive]
    · obtain ⟨set, members', added⟩ := operateAll_addBreakpoint breakpoints
        (powerOn rom settings.cyclesPerTick.toNat positive remaining settings.spritesWrap)
      have same : set = session.debugger.breakpoints :=
        AddressSet.eq_of_contains fun address => by
          rw [members', members]
          simp [powerOn, Debugger.idle, AddressSet.empty, AddressSet.contains]
      have alike := alike_operateAll later
        (alike_reset positive sameRom samePeriod sameWrap bytes)
      rw [added, same]
      exact ⟨alike.mono .inr, fun operation => (agree_respond alike operation).outcome_eq,
        answer_eq alike⟩

/-- A program that draws a random byte and then waits for a key. -/
def drawAndWaitRom : Rom where
  bytes := [0xC0, 0xFF, 0xF1, 0x0A]
  fits := by decide

/-- A session that counts its timers down in every third cycle and draws the numbers from zero on. -/
def drawAndWait : Session :=
  powerOn drawAndWaitRom 3 (Nat.succ_pos 2) (.ofStream fun count => count) true

/-- What a host does that leaves nothing as it was: the program is stopped at a breakpoint, waits for
a key in the middle of a period, the host writes to memory, fails to return and asks for a stop. -/
def upheaval : List Operation :=
  [.debugger (.addBreakpoint 0x202), .run 3 false, .cycle none, .machine (.write 0x300 7),
    .machine (.execute 0x00EE), .debugger .requestStop]

/-- After the reset the program draws its second number, also in the session that is started anew with
the rest of the source. The report of the breakpoint is left from before the reset, on the one side
only. The next run replaces it on both. -/
theorem reset_is_powerOn_after_upheaval :
    let session := drawAndWait.operateAll upheaval
    session.machine.isWaiting = true ∧ session.sinceTick = 2 ∧
      session.debugger.stopRequested = true ∧
    ∃ fresh, start { cyclesPerTick := 3, spritesWrap := true } session.machine.random
        (.ok drawAndWaitRom.bytes) = .ok fresh ∧
      let twin := fresh.operateAll [.debugger (.addBreakpoint 0x202)]
      session.reset.debugger.lastStop = some (Debugger.breakpointAt 0x202) ∧
      twin.debugger.lastStop = none ∧
      ((session.reset.operateAll [.cycle none]).machine.processor.getV .first = 1 ∧
        (twin.operateAll [.cycle none]).machine.processor.getV .first = 1) ∧
      ((session.reset.operateAll [.run 1 false]).debugger.lastStop = none ∧
        (twin.operateAll [.run 1 false]).debugger.lastStop = none) := by
  intro session
  have started : start { cyclesPerTick := 3, spritesWrap := true } (.ofStream fun count => count)
      (.ok drawAndWaitRom.bytes) = .ok drawAndWait := rfl
  have watched : session.debugger.breakpoints = AddressSet.empty.insert (AddressSet.reduce 0x202) := by
    decide +kernel
  have members (address : Fin 4096) : session.debugger.breakpoints.contains address = true ↔
      ∃ number ∈ [0x202], AddressSet.reduce number = address := by
    have none : AddressSet.empty.contains address = false := rfl
    rw [watched, AddressSet.contains_insert, none, Bool.or_false, beq_iff_eq, eq_comm]
    simp only [List.mem_singleton, exists_eq_left]
  obtain ⟨-, anew⟩ := reset_is_powerOn started upheaval
  obtain ⟨fresh, restarted, -, agrees⟩ := anew session.machine.random [0x202] (.refl _) members
  obtain ⟨waits, half, asked, told, drawn, ran⟩ : session.machine.isWaiting = true ∧
      session.sinceTick = 2 ∧ session.debugger.stopRequested = true ∧
      session.reset.debugger.lastStop = some (Debugger.breakpointAt 0x202) ∧
      (session.reset.operateAll [.cycle none]).machine.processor.getV .first = 1 ∧
      (session.reset.operateAll [.run 1 false]).debugger.lastStop = none := by
    decide +kernel
  simp only [List.map_cons, List.map_nil] at agrees
  subst session
  obtain ⟨cycled, -⟩ := agrees [.cycle none]
  obtain ⟨run, -⟩ := agrees [.run 1 false]
  refine ⟨waits, half, asked, fresh, restarted, told, ?_, ⟨drawn, ?_⟩, ran, ?_⟩
  · exact congrArg Debugger.lastStop (debugger_of_start restarted)
  · rw [cycled.machine.processor]
    exact drawn
  · rw [run.debugger.lastStop rfl]
    exact ran

end Session

end Chip8
