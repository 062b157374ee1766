import Chip8.Proofs.Raw.Operations

/-!
# Every state is well formed

What the types of a machine promise, said of plain numbers: how many entries there are and how large
they get. A raw machine is well formed just if it is the view of a machine (`wellFormed_iff`). Since
the raw machine starts as a view and every operation of a host leaves one, also one that fails,
whatever numbers it is given, it is well formed for ever.
-/

namespace Chip8.Raw

/-! ## Well-formed machines -/

/-- A list has a number of entries, all of them from zero up to a bound. -/
def Fits (list : List Int) (length : Nat) (bound : Int) : Prop :=
  list.length = length ∧ ∀ n ∈ list, 0 ≤ n ∧ n ≤ bound

/-- All lists of a raw machine have their lengths, and all numbers are in range. -/
structure Machine.WellFormed (machine : Machine) : Prop where
  v : Fits machine.v 16 255
  index : 0 ≤ machine.index ∧ machine.index ≤ 65535
  pc : 0 ≤ machine.pc ∧ machine.pc ≤ 65535
  sp : 0 ≤ machine.sp ∧ machine.sp ≤ 16
  stack : machine.stack.length = 16 ∧ ∀ address ∈ machine.stack, 0 ≤ address
  delay : 0 ≤ machine.delay ∧ machine.delay ≤ 255
  sound : 0 ≤ machine.sound ∧ machine.sound ≤ 255
  keyRegister : 0 ≤ machine.keyRegister ∧ machine.keyRegister ≤ 15
  memory : Fits machine.memory 4096 255
  imageSize : 0 ≤ machine.imageSize
  pixels : machine.pixels.length = 32 ∧ ∀ row ∈ machine.pixels, Fits row 64 1
  keys : machine.keys.length = 16

/-- The machine of a session is well formed, and all breakpoints are addresses. -/
structure Session.WellFormed (session : Session) : Prop where
  machine : session.machine.WellFormed
  breakpoints : ∀ address ∈ session.breakpoints, 0 ≤ address ∧ address ≤ 4095

/-! ### Views are well formed -/

lemma number_le_255 (byte : UInt8) : 0 ≤ number byte ∧ number byte ≤ 255 := by
  have := number_lt byte
  exact ⟨number_nonneg byte, by omega⟩

lemma fits_numbers {size : Nat} (v : Vector UInt8 size) : Fits (numbers v.toList) size 255 := by
  refine ⟨length_numbers_toList v, fun n mem => ?_⟩
  obtain ⟨byte, _, rfl⟩ := List.mem_map.1 mem
  exact number_le_255 byte

lemma fits_line (screen : Screen) (row : Fin 32) : Fits (line screen row) 64 1 := by
  refine ⟨length_line screen row, fun n mem => ?_⟩
  obtain ⟨column, _, rfl⟩ := List.mem_map.1 mem
  cases screen.isLit column row <;> decide

lemma wellFormed_toRaw (machine : Chip8.Machine) : machine.toRaw.WellFormed where
  v := fits_numbers _
  index := by
    have := machine.processor.index.toNat_lt
    rw [Machine.toRaw_index]
    omega
  pc := by
    have := machine.processor.pc.toNat_lt
    rw [Machine.toRaw_pc]
    omega
  sp := by
    have := machine.processor.stack.depth_le
    rw [Machine.toRaw_sp]
    omega
  stack := by
    rw [Machine.toRaw_stack, List.length_map, Vector.length_toList]
    refine ⟨rfl, fun n mem => ?_⟩
    obtain ⟨address, _, rfl⟩ := List.mem_map.1 mem
    exact Int.natCast_nonneg address
  delay := number_le_255 _
  sound := number_le_255 _
  keyRegister := by
    have := machine.processor.keyRegister.isLt
    rw [Machine.toRaw_keyRegister]
    omega
  memory := fits_numbers _
  imageSize := Int.natCast_nonneg _
  pixels := by
    refine ⟨length_cells machine.screen, fun row mem => ?_⟩
    obtain ⟨place, _, rfl⟩ := List.mem_map.1 mem
    exact fits_line machine.screen place
  keys := Vector.length_toList

lemma Session.wellFormed_toRaw (session : Chip8.Session) : session.toRaw.WellFormed where
  machine := Raw.wellFormed_toRaw session.machine
  breakpoints := by
    intro number mem
    obtain ⟨address, _, rfl⟩ := AddressSet.mem_toRaw.1 mem
    have := address.isLt
    omega

/-! ### Well-formed machines are views -/

lemma exists_byte {n : Int} (fits : 0 ≤ n ∧ n ≤ 255) : ∃ byte, number byte = n :=
  ⟨.ofInt n, by rw [number_ofInt]; omega⟩

lemma exists_word {n : Int} (fits : 0 ≤ n ∧ n ≤ 65535) : ∃ word : UInt16, (word.toNat : Int) = n :=
  ⟨.ofInt n, by rw [toNat_ofInt16]; omega⟩

lemma exists_numbers {list : List Int} {size : Nat} (fits : Fits list size 255) :
    ∃ v : Vector UInt8 size, numbers v.toList = list := by
  refine ⟨⟨(list.map .ofInt).toArray, by simp [fits.1]⟩, ?_⟩
  show ((list.map .ofInt).map number : List Int) = list
  rw [List.map_map]
  refine (List.map_congr_left fun n mem => ?_).trans (List.map_id list)
  have := fits.2 n mem
  show number (.ofInt n) = n
  rw [number_ofInt]
  omega

lemma exists_naturals {list : List Int} {size : Nat} (length : list.length = size)
    (naturals : ∀ n ∈ list, 0 ≤ n) : ∃ v : Vector Nat size, v.toList.map Nat.cast = list := by
  refine ⟨⟨(list.map Int.toNat).toArray, by simp [length]⟩, ?_⟩
  show ((list.map Int.toNat).map Nat.cast : List Int) = list
  rw [List.map_map]
  refine (List.map_congr_left fun n mem => ?_).trans (List.map_id list)
  exact Int.toNat_of_nonneg (naturals n mem)

/-- Rows of zeros and ones are the view of a screen. -/
lemma exists_cells {rows : List (List Int)} (isStale : Bool)
    (fits : rows.length = 32 ∧ ∀ row ∈ rows, Fits row 64 1) :
    ∃ screen : Screen, screen.cells = rows ∧ screen.isStale = isStale := by
  obtain ⟨height, widths⟩ := fits
  have width (row : Fin 32) : (rows.get (row.cast height.symm)).length = 64 :=
    (widths _ (List.get_mem rows _)).1
  -- All rows have the same length, so they can be read as a table, and the table as pixels.
  let entry (row : Fin 32) (column : Fin 64) : Int :=
    (rows.get (row.cast height.symm)).get (column.cast (width row).symm)
  let lit (pixel : Pixel) : Bool :=
    entry ⟨pixel.val / 64, by omega⟩ ⟨pixel.val % 64, Nat.mod_lt _ (by decide)⟩ = 1
  have cells (row : Fin 32) (column : Fin 64) :
      cell (Screen.isLit ⟨Vector.ofFn lit, isStale⟩ column row) = entry row column := by
    have bit := (widths _ (List.get_mem rows (row.cast height.symm))).2 (entry row column)
      (List.get_mem _ _)
    have atRow : (64 * row.val + column.val) / 64 = row.val := by omega
    have atColumn : (64 * row.val + column.val) % 64 = column.val := by omega
    have same : Screen.isLit ⟨Vector.ofFn lit, isStale⟩ column row = decide (entry row column = 1) := by
      simp only [Screen.isLit, Fin.getElem_fin, Vector.getElem_ofFn, Pixel.at, lit, atRow, atColumn]
    rw [same]
    unfold cell
    simp only [decide_eq_true_eq]
    split <;> omega
  refine ⟨⟨Vector.ofFn lit, isStale⟩, ?_, rfl⟩
  apply List.ext_getElem
  · rw [length_cells, height]
  · intro row low high
    simp only [Screen.cells, List.getElem_map, List.getElem_finRange]
    apply List.ext_getElem
    · rw [List.length_map, List.length_finRange, (widths _ (List.getElem_mem high)).1]
    · intro column left right
      rw [List.getElem_map, List.getElem_finRange]
      exact cells ⟨row, by omega⟩ ⟨column, by rwa [(widths _ (List.getElem_mem high)).1] at right⟩

/-- A raw machine is well formed just if it is the view of a machine. -/
theorem Machine.wellFormed_iff {raw : Machine} :
    raw.WellFormed ↔ ∃ machine : Chip8.Machine, raw = machine.toRaw := by
  constructor
  · intro wellFormed
    obtain ⟨v, sameV⟩ := exists_numbers wellFormed.v
    obtain ⟨index, sameIndex⟩ := exists_word wellFormed.index
    obtain ⟨pc, samePc⟩ := exists_word wellFormed.pc
    obtain ⟨slots, sameSlots⟩ := exists_naturals wellFormed.stack.1 wellFormed.stack.2
    obtain ⟨delay, sameDelay⟩ := exists_byte wellFormed.delay
    obtain ⟨sound, sameSound⟩ := exists_byte wellFormed.sound
    obtain ⟨data, sameData⟩ := exists_numbers wellFormed.memory
    obtain ⟨screen, samePixels, sameStale⟩ := exists_cells raw.isStale wellFormed.pixels
    have spFits := wellFormed.sp
    have registerFits := wellFormed.keyRegister
    -- Part by part, the typed machine that the numbers describe.
    refine ⟨{
      processor := {
        v, index, pc, delay, sound
        stack := { slots, depth := raw.sp.toNat, depth_le := by omega }
        awaitsKey := raw.awaitsKey
        keyRegister := ⟨raw.keyRegister.toNat, by omega⟩ }
      memory := { data, imageSize := raw.imageSize.toNat }
      screen
      keypad := { down := ⟨raw.keys.toArray, wellFormed.keys⟩ }
      random := raw.random
      spritesWrap := raw.spritesWrap }, ?_⟩
    have sameSp := Int.toNat_of_nonneg wellFormed.sp.1
    have sameRegister := Int.toNat_of_nonneg wellFormed.keyRegister.1
    have sameSize := Int.toNat_of_nonneg wellFormed.imageSize
    simp only [Machine.toRaw, Machine.isWaiting, sameV, sameIndex, samePc, sameSlots, sameDelay,
      sameSound, sameData, samePixels, sameStale, sameSp, sameRegister, sameSize]
    rfl
  · rintro ⟨machine, rfl⟩
    exact wellFormed_toRaw machine

/-! ## Starting -/

/-- The machine at power-on, before an image is placed in memory. -/
def bareMachine (random : RandomSource) (spritesWrap : Bool) : Chip8.Machine :=
  { Chip8.Machine.powerOn .empty random spritesWrap with memory := .blank }

lemma bare_eq (random : RandomSource) (spritesWrap : Bool) :
    Machine.bare random spritesWrap = (bareMachine random spritesWrap).toRaw := by
  unfold Machine.bare
  rw [blankMemory_eq, ← cells_blank]
  rfl

/-- The image without bytes changes nothing about memory that never held one. -/
lemma load_empty {memory : Memory} (fresh : memory.imageSize = 0) :
    memory.load .empty = memory := by
  obtain ⟨data, imageSize⟩ := memory
  subst fresh
  rfl

lemma powerOn_empty (random : RandomSource) (spritesWrap : Bool) :
    Chip8.Machine.powerOn .empty random spritesWrap = bareMachine random spritesWrap := by
  unfold bareMachine Chip8.Machine.powerOn
  rw [load_empty rfl]

/-- The raw machine starts as the view of a machine, unless the image does not fit. -/
lemma powerOn_eq (rom : List UInt8) (random : RandomSource) (spritesWrap : Bool) :
    Machine.powerOn rom random spritesWrap =
      match Rom.ofBytes rom with
      | .ok image => .ok (Chip8.Machine.powerOn image random spritesWrap).toRaw
      | .error failure => .error (.error (.load { failure })) := by
  unfold Machine.powerOn Rom.ofBytes
  rw [bare_eq]
  cases rom with
  | nil =>
    -- Without an image nothing is loaded, which comes to the same as loading the empty one.
    rw [dif_pos (by decide)]
    exact congrArg (Except.ok ∘ Machine.toRaw) (powerOn_empty random spritesWrap).symm
  | cons byte rest =>
    rw [if_neg (by simp)]
    by_cases fits : (byte :: rest).length ≤ 3584
    · have loaded := run_loadRom { bytes := byte :: rest, fits } (bareMachine random spritesWrap)
      rw [dif_pos fits]
      dsimp only at loaded
      rw [loaded]
      rfl
    · unfold loadRom
      rw [dif_neg fits, if_pos (by omega)]
      rfl

lemma bytes_of_accepted {rom : List UInt8} {image : Rom} (accepted : Rom.ofBytes rom = .ok image) :
    image.bytes = rom := by
  unfold Rom.ofBytes at accepted
  split at accepted
  · cases accepted
    rfl
  · cases accepted

/-- The raw session starts as the view of a session, unless the session does not start. -/
lemma start_eq (settings : Settings) (random : RandomSource) (rom : List UInt8) :
    Session.start settings random rom =
      match Chip8.Session.start settings random (.ok rom) with
      | .ok session => .ok session.toRaw
      | .error error => .error (.error error) := by
  unfold Session.start Chip8.Session.start
  by_cases tooFew : settings.cyclesPerTick < 1
  · rw [if_pos tooFew, dif_pos tooFew]
  · have ticks : (settings.cyclesPerTick.toNat : Int) = settings.cyclesPerTick := by omega
    rw [if_neg tooFew, dif_neg tooFew, powerOn_eq]
    unfold Except.bind Rom.ofFile
    dsimp only
    cases accepted : Rom.ofBytes rom with
    | error failure => dsimp only
    | ok image =>
      obtain rfl := bytes_of_accepted accepted
      simp only [Session.toRaw, ticks]
      rfl

/-! ## Every operation keeps the view -/

/-- A raw machine that was started is the view of the machine that was started with the same image,
after the same operations. -/
lemma Machine.view_of_powerOn {rom : List UInt8} {random : RandomSource} {spritesWrap : Bool}
    {initial : Machine} (started : Machine.powerOn rom random spritesWrap = .ok initial)
    (operations : List Chip8.Machine.Operation) :
    ∃ image, Rom.ofBytes rom = .ok image ∧ operateAll initial operations =
      ((Chip8.Machine.powerOn image random spritesWrap).operateAll operations).toRaw := by
  rw [powerOn_eq] at started
  cases accepted : Rom.ofBytes rom with
  | error failure =>
    rw [accepted] at started
    cases started
  | ok image =>
    rw [accepted] at started
    obtain rfl := Except.ok.inj started
    exact ⟨image, rfl, toRaw_operateAll _ operations⟩

/-- A raw session that was started is the view of the session that was started alike, after the same
operations. -/
lemma Session.view_of_start {rom : List UInt8} {random : RandomSource} {settings : Settings}
    {initial : Session} (started : Session.start settings random rom = .ok initial)
    (operations : List Chip8.Session.Operation) :
    ∃ session, Chip8.Session.start settings random (.ok rom) = .ok session ∧
      operateAll initial operations = (session.operateAll operations).toRaw := by
  rw [start_eq] at started
  cases accepted : Chip8.Session.start settings random (.ok rom) with
  | error error =>
    rw [accepted] at started
    cases started
  | ok session =>
    rw [accepted] at started
    obtain rfl := Except.ok.inj started
    exact ⟨session, rfl, toRaw_operateAll session operations⟩

/-- Whatever a host does, in whatever order, with numbers of any size and with any source of random
numbers, a machine and a session that were started stay well formed: they stay views of the machine
and the session to which the same was done. -/
theorem every_state_is_wellFormed (rom : List UInt8) (random : RandomSource) :
    (∀ spritesWrap initial, Machine.powerOn rom random spritesWrap = .ok initial →
      ∀ operations,
        (operateAll initial operations).WellFormed ∧
        ∃ image, Rom.ofBytes rom = .ok image ∧ operateAll initial operations =
          ((Chip8.Machine.powerOn image random spritesWrap).operateAll operations).toRaw) ∧
    (∀ settings initial, Session.start settings random rom = .ok initial →
      ∀ operations,
        (Session.operateAll initial operations).WellFormed ∧
        ∃ session, Chip8.Session.start settings random (.ok rom) = .ok session ∧
          Session.operateAll initial operations = (session.operateAll operations).toRaw) := by
  constructor
  · intro spritesWrap initial started operations
    obtain ⟨image, accepted, view⟩ := Machine.view_of_powerOn started operations
    refine ⟨?_, image, accepted, view⟩
    rw [view]
    exact wellFormed_toRaw _
  · intro settings initial started operations
    obtain ⟨session, accepted, view⟩ := Session.view_of_start started operations
    refine ⟨?_, session, accepted, view⟩
    rw [view]
    exact Session.wellFormed_toRaw _

theorem every_state_is_wellFormed_after_refusals :
    (∃ initial, Machine.powerOn [0x00, 0xEE] (.cycling [300, -1]) false = .ok initial ∧
      (operateAll initial [.cycle, .writeBytes 4095 [300, -1], .assignV 3 256]).WellFormed) ∧
    (∃ initial, Session.start {} (.cycling [300, -1]) [0x00, 0xEE] = .ok initial ∧
      (Session.operateAll initial
        [.debugger (.addBreakpoint (-1)), .run 7 true, .cycle (some [])]).WellFormed) := by
  obtain ⟨machines, sessions⟩ := every_state_is_wellFormed [0x00, 0xEE] (.cycling [300, -1])
  exact ⟨⟨_, rfl, (machines false _ rfl _).1⟩, ⟨_, rfl, (sessions {} _ rfl _).1⟩⟩

end Chip8.Raw
