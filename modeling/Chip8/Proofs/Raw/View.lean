import Chip8.Proofs.Raw.Cycle

/-!
# The raw machine as a view

`Machine.toRaw` forgets what the types of a machine say. A raw program mirrors an action if it does
on views what the action does: the same answer, the same fault, the view of the machine that the
action leaves. Sequences of programs mirror sequences of actions (`Mirrors.bind`), so what remains
is to look at the smallest ones, each of which finds what it needs because the types promise it.
-/

namespace Chip8

/-! ## Views -/

/-- A pixel as a number: one if it is on, else zero. -/
def Raw.cell (lit : Bool) : Int := if lit then 1 else 0

/-- The rows of the screen as numbers. -/
def Screen.cells (screen : Screen) : List (List Int) :=
  (List.finRange 32).map fun row => (List.finRange 64).map fun column =>
    Raw.cell (screen.isLit column row)

/-- The machine in plain numbers and lists. -/
@[simps]
def Machine.toRaw (machine : Machine) : Raw.Machine where
  v := Raw.numbers machine.processor.v.toList
  index := machine.processor.index.toNat
  pc := machine.processor.pc.toNat
  sp := machine.processor.stack.depth
  stack := machine.processor.stack.slots.toList.map Nat.cast
  delay := Raw.number machine.processor.delay
  sound := Raw.number machine.processor.sound
  awaitsKey := machine.isWaiting
  keyRegister := machine.processor.keyRegister.val
  memory := Raw.numbers machine.memory.data.toList
  imageSize := machine.memory.imageSize
  pixels := machine.screen.cells
  isStale := machine.screen.isStale
  keys := machine.keypad.down.toList
  random := machine.random
  spritesWrap := machine.spritesWrap

namespace Raw

variable {ε ε' σ τ α β α' β' : Type}

/-! ## Mirroring -/

/-- A program does on views what another does on the states themselves. -/
def Mirrors (view : σ → τ) (lift : ε → σ → ε') (answer : α → β) (raw : EStateM ε' τ β)
    (program : EStateM ε σ α) : Prop :=
  ∀ s, raw (view s) = match program s with
    | .ok a s' => .ok (answer a) (view s')
    | .error e s' => .error (lift e s') (view s')

section
variable {view : σ → τ} {lift : ε → σ → ε'} {answer : α → β}

lemma Mirrors.pure (a : α) (answer : α → β) :
    Mirrors view lift answer (pure (answer a)) (pure a) := fun _ => rfl

/-- What follows need only be mirrored for the answers that the program gives. -/
lemma Mirrors.bind_of {raw : EStateM ε' τ β} {program : EStateM ε σ α} {answer' : α' → β'}
    {rawNext : β → EStateM ε' τ β'} {next : α → EStateM ε σ α'} {gives : α → Prop}
    (first : Mirrors view lift answer raw program)
    (given : ∀ s a s', program s = .ok a s' → gives a)
    (rest : ∀ a, gives a → Mirrors view lift answer' (rawNext (answer a)) (next a)) :
    Mirrors view lift answer' (raw >>= rawNext) (program >>= next) := by
  intro s
  rw [run_bind, run_bind, first s]
  cases h : program s with
  | ok a s' => exact rest a (given s a s' h) s'
  | error e s' => rfl

lemma Mirrors.bind {raw : EStateM ε' τ β} {program : EStateM ε σ α} {answer' : α' → β'}
    {rawNext : β → EStateM ε' τ β'} {next : α → EStateM ε σ α'}
    (first : Mirrors view lift answer raw program)
    (rest : ∀ a, Mirrors view lift answer' (rawNext (answer a)) (next a)) :
    Mirrors view lift answer' (raw >>= rawNext) (program >>= next) :=
  first.bind_of (fun _ _ _ _ => trivial) fun a (_ : True) => rest a

lemma Mirrors.get_bind {answer' : α' → β'} {rawNext : τ → EStateM ε' τ β'}
    {next : σ → EStateM ε σ α'}
    (rest : ∀ s, Mirrors view lift answer' (rawNext (view s)) (next s)) :
    Mirrors view lift answer' (get >>= rawNext) (get >>= next) := by
  have first : Mirrors view lift view get get := fun _ => rfl
  exact first.bind rest

lemma mirrors_modify {f : σ → σ} {rawF : τ → τ} (same : ∀ s, rawF (view s) = view (f s)) :
    Mirrors view lift id (modify rawF) (modify f) := by
  intro s
  rw [run_modify, run_modify, same]

lemma Mirrors.modify_bind {f : σ → σ} {rawF : τ → τ} {answer' : α' → β'}
    {rawNext : EStateM ε' τ β'} {next : EStateM ε σ α'}
    (same : ∀ s, rawF (view s) = view (f s)) (rest : Mirrors view lift answer' rawNext next) :
    Mirrors view lift answer' (modify rawF >>= fun _ => rawNext) (modify f >>= fun _ => next) :=
  (mirrors_modify same).bind fun _ => rest

lemma Mirrors.leaves {raw : EStateM ε' τ β} {program : EStateM ε σ α}
    (mirrors : Mirrors view lift answer raw program) (s : σ) :
    leaves (raw (view s)) = view (leaves (program s)) := by
  rw [mirrors s]
  cases program s <;> rfl

end

/-! ## Actions -/

/-- A raw program does what an action does, the faults of which know the place of the instruction
as `Fault.Cause.reported` says. -/
abbrev MirrorsAction (word : UInt16) (answer : α → β) (raw : Program β)
    (action : Machine.Action α) : Prop :=
  Mirrors Machine.toRaw
    (fun cause machine => .error (.fault (cause.reported machine.processor.pc word)))
    answer raw action

variable {word : UInt16}

lemma mirrors_getV (x : Register) :
    MirrorsAction word number (getV x.val) (Machine.Action.getV x) := by
  intro machine
  rw [getV, run_bind, run_get]
  dsimp only
  rw [Machine.toRaw_v, item_numbers x.isLt]
  rfl

lemma mirrors_setV (x : Register) {n : Int} {byte : UInt8} (same : n = number byte) :
    MirrorsAction word id (setV x.val n) (Machine.Action.setV x byte) := by
  subst same
  intro machine
  rw [setV, run_bind, run_get]
  dsimp only
  rw [run_bind, Machine.toRaw_v, setItem_numbers x.isLt]
  rfl

lemma mirrors_setFlag (flag : Bool) :
    MirrorsAction word id (setFlag flag) (Machine.Action.setFlag flag) := by
  cases flag <;> exact mirrors_setV .flag rfl

lemma mirrors_update {f : Processor → Processor} {rawF : Machine → Machine}
    (same : ∀ machine : Chip8.Machine, rawF machine.toRaw = (machine.mapProcessor f).toRaw) :
    MirrorsAction word id (modify rawF) (Machine.Action.update f) :=
  mirrors_modify same

/-- Sixteen-bit registers hold the low bits of numbers. -/
lemma toNat_ofNat16 (n : Nat) : ((UInt16.ofNat n).toNat : Int) = n % 65536 := by
  rw [UInt16.toNat_ofNat']
  omega

lemma toNat_ofInt16 (n : Int) : ((UInt16.ofInt n).toNat : Int) = n % 65536 := by
  rw [UInt16.ofInt, UInt16.toNat_ofNat']
  omega

lemma toNat_add16 (a b : UInt16) : ((a + b).toNat : Int) = (a.toNat + b.toNat) % 65536 := by
  rw [UInt16.toNat_add]
  omega

lemma mirrors_jump {n : Int} {address : Nat} (same : n = address) :
    MirrorsAction word id (jump n) (Machine.Action.jump address) := by
  subst same
  refine mirrors_update fun machine => ?_
  rw [← toNat_ofNat16]
  rfl

lemma mirrors_setIndex {n : Int} {index : UInt16} (same : n % 65536 = index.toNat) :
    MirrorsAction word id (setIndex n) (Machine.Action.setIndex index) := by
  refine mirrors_update fun machine => ?_
  rw [same]
  rfl

lemma mirrors_advance : MirrorsAction word id advance Machine.Action.advance := by
  intro machine
  rw [advance, run_bind, run_get]
  dsimp only [jump]
  rw [run_modify, Machine.toRaw_pc, show (2 : Int) = (2 : UInt16).toNat from rfl, ← toNat_add16]
  rfl

lemma mirrors_skipIf (condition : Bool) :
    MirrorsAction word id (skipIf condition) (Machine.Action.skipIf condition) := by
  intro machine
  have distance : (if condition then 4 else 2 : Int) =
      (if condition then 4 else 2 : UInt16).toNat := by
    cases condition <;> rfl
  rw [skipIf, run_bind, run_get]
  dsimp only [jump]
  rw [run_modify, Machine.toRaw_pc, distance, ← toNat_add16]
  rfl

/-! ### The stack -/

lemma mirrors_push {n : Int} {address : Nat} (same : n = address) :
    MirrorsAction word id (push word.toNat n) (Machine.Action.push address) := by
  subst same
  intro machine
  rw [push, run_bind, run_get, Machine.run_push]
  unfold CallStack.push?
  dsimp only
  rw [Machine.toRaw_sp, Machine.toRaw_stack]
  by_cases free : machine.processor.stack.depth < 16
  · have inside : machine.processor.stack.depth <
        (machine.processor.stack.slots.toList.map Nat.cast : List Int).length := by
      rwa [List.length_map, Vector.length_toList]
    rw [if_neg (by omega), dif_pos free, run_bind, setItem_natCast inside, ← List.map_set,
      ← Vector.toList_set free]
    rfl
  · rw [if_pos (by omega), dif_neg free]
    rfl

lemma mirrors_pop : MirrorsAction word (↑·) (pop word.toNat) Machine.Action.pop := by
  intro machine
  rw [pop, run_bind, run_get, Machine.run_pop]
  unfold CallStack.pop?
  dsimp only
  rw [Machine.toRaw_sp, Machine.toRaw_stack]
  by_cases used : 0 < machine.processor.stack.depth
  · -- The raw machine lowers the pointer first and then reads at the slot it points to.
    have lower := machine.processor.stack.depth_le
    have inside : machine.processor.stack.depth - 1 <
        (machine.processor.stack.slots.toList.map Nat.cast : List Int).length := by
      rw [List.length_map, Vector.length_toList]
      omega
    have less : (machine.processor.stack.depth : Int) - 1 =
        (machine.processor.stack.depth - 1 : Nat) := by omega
    rw [if_neg (by omega), dif_pos used, run_bind, less, item_natCast inside, List.getElem_map,
      Vector.getElem_toList]
    rfl
  · rw [if_pos (by omega), dif_neg used]
    rfl

/-! ### Memory -/

/-- The test of a block passes when the block lies inside memory. -/
lemma run_checkBlock (address count : Int) (machine : Machine) :
    checkBlock address count machine =
      if Memory.Within address count then .ok () machine
      else .error (.error (.fault { cause := Memory.refusal address })) machine := by
  unfold checkBlock
  split <;> rfl

/-- A slice of memory that does not begin before address zero. -/
lemma slice_memory (memory : Memory) {address : Int} (begins : 0 ≤ address) (count : Int) :
    slice (numbers memory.data.toList) address (address + count) =
      numbers (memory.slice address.toNat (Memory.blockEnd address count)) := by
  have length := length_numbers_toList memory.data
  have start : bound 4096 address = min address.toNat 4096 := by
    unfold bound
    rw [if_neg (by omega)]
  -- Both count an end before address zero back from the end of memory.
  have stop : bound 4096 (address + count) = min (Memory.blockEnd address count) 4096 := by
    unfold bound Memory.blockEnd
    congr 1
    split <;> omega
  have cut := drop_take_min (numbers memory.data.toList) address.toNat
    (Memory.blockEnd address count)
  rw [length] at cut
  rw [slice, length, start, stop, cut, Memory.slice, Array.toList_extract,
    List.extract_eq_take_drop, List.drop_take]
  simp only [numbers, List.map_take, List.map_drop]
  rfl

/-- Reading a block of any size from any address. -/
lemma run_readBytes (address count : Int) (machine : Chip8.Machine) :
    readBytes address count machine.toRaw =
      match machine.memory.readBytes address count with
      | .ok bytes => .ok (numbers bytes) machine.toRaw
      | .error cause => .error (.error (.fault { cause })) machine.toRaw := by
  unfold readBytes Memory.readBytes
  rw [run_bind, run_checkBlock]
  by_cases inside : Memory.Within address count
  · rw [if_pos inside, if_pos inside]
    dsimp only
    rw [run_bind, run_get]
    dsimp only
    rw [run_pure, Machine.toRaw_memory, slice_memory _ inside.1]
  · rw [if_neg inside, if_neg inside]

lemma mirrors_readBlock {n : Int} {count : Nat} (same : n = count) :
    MirrorsAction word numbers (readBlock n) (Machine.Action.readBlock count) := by
  subst same
  intro machine
  rw [readBlock, run_bind, run_get, Machine.run_readBlock]
  dsimp only
  rw [Machine.toRaw_index, run_readBytes]
  unfold Memory.readBytes
  by_cases inside : Memory.Within machine.processor.index.toNat count
  · rw [if_pos inside]
  · rw [if_neg inside]
    rfl

/-- Writing a block of bytes as plain numbers. -/
lemma run_writeBytes (address : Int) (bytes : List UInt8) (machine : Chip8.Machine) :
    writeBytes address (numbers bytes) machine.toRaw =
      match machine.memory.writeBytes address bytes with
      | .ok memory => .ok () ({ machine with memory } : Chip8.Machine).toRaw
      | .error cause => .error (.error (.fault { cause })) machine.toRaw := by
  unfold writeBytes Memory.writeBytes
  rw [numbers_mod, length_numbers, run_bind, run_checkBlock]
  by_cases inside : Memory.Within address bytes.length
  · obtain ⟨begins, ends⟩ := id inside
    obtain ⟨start, rfl⟩ := Int.eq_ofNat_of_zero_le begins
    rw [if_pos inside, if_pos inside, Int.toNat_natCast]
    dsimp only
    rw [run_modify, Machine.toRaw_memory, setSlice_numbers (by omega)]
    rfl
  · rw [if_neg inside, if_neg inside]

lemma mirrors_writeBlock {data : List Int} {bytes : List UInt8} (same : data = numbers bytes) :
    MirrorsAction word id (writeBlock data) (Machine.Action.writeBlock bytes) := by
  subst same
  intro machine
  rw [writeBlock, run_bind, run_get, Machine.run_writeBlock]
  dsimp only
  rw [Machine.toRaw_index, run_writeBytes]
  unfold Memory.writeBytes
  by_cases inside : Memory.Within machine.processor.index.toNat bytes.length
  · rw [if_pos inside]
  · rw [if_neg inside]
    rfl

/-! ### Random bytes -/

lemma next_eq_nextNumber (source : RandomSource) :
    source.next = (.ofInt (nextNumber source).1, (nextNumber source).2) := by
  obtain ⟨generator, drawn⟩ := source
  cases generator with
  | stream numbers => rfl
  | twister twister =>
    have byte (word : UInt32) : (word >>> 24).toUInt8 = UInt8.ofInt (word >>> 24).toNat := by
      apply UInt8.toNat_inj.1
      rw [UInt32.toNat_toUInt8, UInt8.ofInt, UInt8.toNat_ofNat']
      omega
    unfold RandomSource.next nextNumber
    dsimp only
    rw [byte]

lemma mirrors_randomByte {β : Type} {rawNext : Int → Program β} {next : UInt8 → Machine.Action α}
    {answer : α → β}
    (rest : ∀ n, MirrorsAction word answer (rawNext n) (next (.ofInt n))) :
    MirrorsAction word answer (randomNumber >>= rawNext) (Machine.Action.randomByte >>= next) := by
  intro machine
  have byte : Machine.Action.randomByte machine =
      .ok (.ofInt (nextNumber machine.random).1)
        { machine with random := (nextNumber machine.random).2 } := by
    unfold Machine.Action.randomByte
    dsimp only
    rw [next_eq_nextNumber]
  have drawn : randomNumber machine.toRaw =
      .ok (nextNumber machine.random).1
        ({ machine with random := (nextNumber machine.random).2 } : Chip8.Machine).toRaw := rfl
  rw [run_bind, run_bind, byte, drawn]
  -- The machine goes on with a byte and the raw machine with the whole number.
  exact rest _ _

/-! ### Keys -/

/-- Setting all keys, if there are as many states as keys. -/
lemma run_setKeys (states : List Bool) (machine : Chip8.Machine) :
    setKeys states machine.toRaw =
      match Keypad.ofList states with
      | .ok keypad => .ok () ({ machine with keypad } : Chip8.Machine).toRaw
      | .error misuse => .error (.error (.misuse misuse)) machine.toRaw := by
  unfold setKeys Keypad.ofList
  by_cases length : states.length = 16
  · rw [if_neg (not_not.2 length), dif_pos length]
    rfl
  · rw [if_pos length, dif_neg length]
    rfl

lemma mirrors_isDown (x : Register) :
    MirrorsAction word id (isDown word.toNat x.val) (Machine.Action.isDown x) := by
  intro machine
  rw [isDown, run_bind, @mirrors_getV word x machine, Machine.run_isDown, Machine.run_getV]
  dsimp only
  by_cases code : (machine.processor.getV x).toNat < 16
  · have inside : (machine.processor.getV x).toNat < machine.keypad.down.toList.length := by
      rwa [Vector.length_toList]
    rw [if_neg (by unfold number; omega), dif_pos code, run_bind, run_get]
    dsimp only [number]
    rw [Machine.toRaw_keys, item_natCast inside, Vector.getElem_toList]
    rfl
  · rw [if_pos (by unfold number; omega), dif_neg code]
    rfl

/-- The least key that is down is the first entry of the list that is true. -/
lemma findIdx?_down (keypad : Keypad) :
    keypad.down.toList.findIdx? (· = true) = keypad.lowestDown?.map (·.val) := by
  have entry (key : Key) (inside : key.val < keypad.down.toList.length) :
      keypad.down.toList[key.val] = keypad.isDown key := Vector.getElem_toList inside
  -- Both searches go through the keys in order, one over the keys and one over their states.
  cases found : keypad.lowestDown? with
  | none =>
    rw [Keypad.lowestDown?, List.find?_eq_none] at found
    rw [Option.map_none, List.findIdx?_eq_none_iff]
    intro state mem
    obtain ⟨place, inside, rfl⟩ := List.getElem_of_mem mem
    rw [Vector.length_toList] at inside
    have up := found ⟨place, inside⟩ (List.mem_finRange _)
    simpa [Keypad.isDown] using up
  | some key =>
    rw [Keypad.lowestDown?, List.find?_eq_some_iff_getElem] at found
    obtain ⟨down, place, inside, rfl, least⟩ := found
    rw [Option.map_some, List.findIdx?_eq_some_iff_getElem]
    rw [List.getElem_finRange] at down ⊢
    refine ⟨by simpa using inside, ?_, fun other before => ?_⟩
    · simpa [Keypad.isDown] using down
    · have up := least other before
      rw [List.getElem_finRange] at up
      simpa [Keypad.isDown] using up

lemma mirrors_pollKey : MirrorsAction word id pollKey Machine.Action.pollKey := by
  intro machine
  have found := findIdx?_down machine.keypad
  unfold pollKey Machine.Action.pollKey
  rw [run_bind, run_get, run_bind, run_get]
  dsimp only
  rw [Machine.toRaw_keys, found]
  cases machine.keypad.lowestDown? with
  | none => rfl
  | some key =>
    -- A key code fits a byte, so nothing is cut when it is stored.
    have stored : ((key.val : Nat) : Int) = number (UInt8.ofNat key.val) := by
      unfold number
      rw [UInt8.toNat_ofNat']
      omega
    have resumed : MirrorsAction word id (modify ({ · with awaitsKey := false }))
        (Machine.Action.update ({ · with awaitsKey := false })) := mirrors_update fun _ => rfl
    have taken : MirrorsAction word id
        (do
          setV machine.processor.keyRegister.val key.val
          modify ({ · with awaitsKey := false })
          advance)
        (do
          Machine.Action.setV machine.processor.keyRegister (UInt8.ofNat key.val)
          Machine.Action.update ({ · with awaitsKey := false })
          Machine.Action.advance) :=
      (mirrors_setV _ stored).bind fun _ => resumed.bind fun _ => mirrors_advance
    exact taken machine

/-! ### The screen -/

lemma length_cells (screen : Screen) : screen.cells.length = 32 := by
  rw [Screen.cells, List.length_map, List.length_finRange]

lemma cells_blank : Screen.blank.cells = List.replicate 32 (List.replicate 64 0) := by
  have off (column : Fin 64) (row : Fin 32) : cell (Screen.blank.isLit column row) = 0 := by
    unfold Screen.isLit Screen.blank
    dsimp only
    rw [Fin.getElem_fin, Vector.getElem_replicate]
    rfl
  simp only [Screen.cells, off, List.map_const', List.length_finRange]

lemma mirrors_clearScreen :
    MirrorsAction word id clearScreen Machine.Action.clearScreen := by
  refine mirrors_modify fun machine => ?_
  have dark : machine.screen.cells.map (fun _ => List.replicate 64 0) = Screen.blank.cells := by
    rw [cells_blank, List.map_const', length_cells]
  rw [Machine.toRaw_pixels, dark]
  rfl

end Raw

end Chip8
