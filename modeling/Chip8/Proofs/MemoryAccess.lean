import Chip8.Proofs.Chronicle
import Chip8.Proofs.Frames
import Chip8.Proofs.Leeway

/-!
# Where memory is read and written

A cycle reads the two bytes of the instruction at the program counter, and the block from the index
register on if the instruction draws or loads registers. It looks nowhere else (`LooksAt`): two machines
whose memories differ in other places do the same, and what differed is still different or has been
written alike on both (`cycle_looksAt`). While the machine waits for a key it does not look at memory at
all.

What a cycle writes is computed in the same way (`written?`), and all other bytes stay as they were
(`data_cycle`).
-/

namespace Chip8

variable {region : Set Nat} {address : Nat}

/-! ## Memories that agree outside a region -/

namespace Memory

variable {left right : Memory}

/-- The memories hold images of the same size, and the same bytes outside a region. -/
structure AgreesOutside (region : Set Nat) (left right : Memory) : Prop where
  imageSize : right.imageSize = left.imageSize
  data : ∀ address, (inside : address < 4096) → address ∉ region →
    right.data[address] = left.data[address]

lemma isKept_agreesOutside (region : Set Nat) : Memory.IsKept (AgreesOutside region) where
  refl memory := ⟨rfl, fun _ _ _ => rfl⟩
  imageSize agrees := agrees.imageSize
  overwrite {left right} agrees start bytes imageSize := by
    refine ⟨rfl, fun address inside outside => ?_⟩
    have same := agrees.data address inside outside
    show (Chip8.overwrite right.data start bytes)[address] =
      (Chip8.overwrite left.data start bytes)[address]
    rw [getElem_overwrite, getElem_overwrite, same]

/-- Overwriting a block changes nothing outside it. -/
lemma agreesOutside_overwrite (memory : Memory) (start : Nat) (bytes : List UInt8) :
    memory.AgreesOutside (Set.Ico start (start + bytes.length))
      { memory with data := Chip8.overwrite memory.data start bytes } := by
  refine ⟨rfl, fun address inside outside => ?_⟩
  rw [Set.mem_Ico] at outside
  exact getElem_overwrite_of_outside memory.data start address bytes inside (by omega)

section
variable (agrees : AgreesOutside region left right)
include agrees

/-- The same block is read where it lies outside the region. -/
lemma AgreesOutside.readBytes_eq {start count : Nat}
    (outside : ∀ address, start ≤ address → address < start + count → address ∉ region) :
    right.readBytes start count = left.readBytes start count := by
  by_cases inside : start + count ≤ 4096
  · have same : right.slice start (start + count) = left.slice start (start + count) := by
      unfold slice
      refine congrArg Array.toList (Array.ext (by simp) fun place below below' => ?_)
      have last : start + place < start + count ∧ start + place < 4096 := by
        simp only [Array.size_extract, Vector.size_toArray] at below
        omega
      simpa using agrees.data (start + place) last.2 (outside _ (by omega) last.1)
    rw [readBytes_natCast inside, readBytes_natCast inside, same]
  · have refused : ¬Within start count := mt within_natCast.1 inside
    unfold readBytes
    rw [if_neg refused, if_neg refused]

/-- The same word is read where both of its bytes lie outside the region. -/
lemma AgreesOutside.readWord_eq {start : Nat} (first : start ∉ region)
    (second : start + 1 ∉ region) : right.readWord start = left.readWord start := by
  unfold readWord
  by_cases inside : Within start 2
  · have below : start + 1 < 4096 := by
      unfold Within at inside
      omega
    have same := agrees.data start (by omega) first
    have same' := agrees.data (start + 1) below second
    rw [dif_pos inside, dif_pos inside]
    simp only [Int.toNat_natCast, same, same']
  · rw [dif_neg inside, dif_neg inside]

end

end Memory

/-- Memories may hold other bytes in a region. -/
def Leeway.within (region : Set Nat) : Leeway where
  memory := Memory.AgreesOutside region

lemma Leeway.isKept_within (region : Set Nat) : (Leeway.within region).IsKept where
  stack := CallStack.isKept_eq
  memory := Memory.isKept_agreesOutside region
  source := RandomSource.isKept_eq

/-- What an instruction writes from the index register on. -/
def Instruction.written (processor : Processor) : Instruction → List UInt8
  | storeDecimal x =>
    let a := processor.getV x
    [a / 100, a / 10 % 10, a % 10]
  | storeRegisters x => processor.v.toList.take (x + 1)
  | _ => []

namespace Machine

variable {machine after : Machine} {instruction : Instruction}

/-! ## Writing -/

/-- The byte that a cycle writes to an address, if it executes an instruction that writes there. -/
def written? (machine : Machine) (address : Nat) : Option UInt8 :=
  match machine.executed? .cycle with
  | some instruction =>
    let start := machine.processor.index.toNat
    if start ≤ address then (instruction.written machine.processor)[address - start]? else none
  | none => none

/-- The block that an instruction writes takes the place of what memory held there. -/
lemma data_perform (performed : perform instruction machine = .ok () after) :
    after.memory.data = overwrite machine.memory.data machine.processor.index.toNat
      (instruction.written machine.processor) := by
  -- Behind the block that is written comes only what goes on with the next instruction.
  have stored (bytes : List UInt8)
      (ends : (do Action.writeBlock bytes; Action.advance) machine = .ok () after) :
      after.memory.data = overwrite machine.memory.data machine.processor.index.toNat bytes := by
    rw [run_bind, run_writeBlock] at ends
    unfold Memory.writeBytes at ends
    by_cases inside : Memory.Within machine.processor.index.toNat bytes.length
    · rw [if_pos inside] at ends
      cases ends
      rfl
    · rw [if_neg inside] at ends
      cases ends
  by_cases stores : instruction.stores = true
  · cases instruction
    case storeDecimal x => exact stored _ performed
    case storeRegisters x => exact stored _ performed
    all_goals cases stores
  · have nothing : instruction.written machine.processor = [] := by
      cases instruction
      case storeDecimal x => exact absurd rfl stores
      case storeRegisters x => exact absurd rfl stores
      all_goals rfl
    have kept := keeps_perform (·.memory.data) (fun _ _ => rfl) (fun _ _ _ => rfl)
      (fun yes => absurd yes stores) (fun _ _ _ => rfl) machine
    rw [performed] at kept
    rw [nothing]
    exact kept

/-- A cycle leaves every byte as it was, or as it is written. -/
theorem data_cycle (machine : Machine) (inside : address < 4096) :
    (leaves machine.cycle).memory.data[address] =
      (machine.written? address).getD machine.memory.data[address] := by
  unfold written? executed?
  rcases stepped : machine.step with ⟨⟨⟩, between⟩ | ⟨fault, between⟩
  · have cycled : leaves machine.cycle = between.tick := by
      rw [run_cycle, stepped]
      rfl
    dsimp only
    rw [cycled]
    rcases step_completes_cases stepped with ⟨waits, polled⟩ | ⟨word, upcoming, performed⟩
    · have kept := keeps_pollKey (·.memory.data) (fun _ _ => rfl) machine
      rw [polled] at kept
      rw [upcoming?_of_isWaiting waits]
      exact congrArg (·[address]) kept
    · have written := congrArg (·[address]) (data_perform performed)
      rw [upcoming]
      refine written.trans ?_
      dsimp only [Option.map_some]
      rw [getElem_overwrite]
      split <;> rfl
  · have cycled : leaves machine.cycle = machine := by
      rw [run_cycle, stepped, step_of_error stepped]
      rfl
    rw [cycled]
    rfl

/-- Only the instructions that are there to write do so. -/
lemma stores_of_written? {byte : UInt8} (written : machine.written? address = some byte) :
    ∃ instruction, machine.executed? .cycle = some instruction ∧ instruction.stores = true := by
  unfold written? at written
  cases executed : machine.executed? .cycle with
  | none =>
    rw [executed] at written
    cases written
  | some instruction =>
    rw [executed] at written
    refine ⟨instruction, rfl, ?_⟩
    -- All others write no byte, so there is none at any distance from the index register.
    cases instruction
    case storeDecimal x => rfl
    case storeRegisters x => rfl
    all_goals simp [Instruction.written] at written

/-! ## Reading -/

/-- A machine that does not wait for a key looks at an address in its next cycle: the instruction lies
there, or a byte of the block that it reads. -/
def LooksAt (machine : Machine) (address : Nat) : Prop :=
  machine.isWaiting = false ∧
    (address = machine.processor.pc.toNat ∨ address = machine.processor.pc.toNat + 1 ∨
      ∃ word, machine.fetch = .ok word ∧ machine.processor.index.toNat ≤ address ∧
        address < machine.processor.index.toNat + (Instruction.decode word).blockRead)

section
variable {left right : Machine} (same : right = { left with memory := right.memory })
  (agrees : left.memory.AgreesOutside region right.memory)
  (outside : ∀ address ∈ region, ¬left.LooksAt address)
include same agrees

lemma near_within : Near (.within region) left right := by
  rw [same]
  exact ⟨rfl, rfl, agrees, rfl, rfl⟩

include outside

lemma fetch_within (runs : left.isWaiting = false) : right.fetch = left.fetch := by
  have first : left.processor.pc.toNat ∉ region := fun member =>
    outside _ member ⟨runs, .inl rfl⟩
  have second : left.processor.pc.toNat + 1 ∉ region := fun member =>
    outside _ member ⟨runs, .inr (.inl rfl)⟩
  unfold fetch
  rw [(near_within same agrees).pc, agrees.readWord_eq first second]

lemma findsSame_within {word : UInt16} (upcoming : left.upcoming? = some word) :
    FindsSame (Instruction.decode word) left right where
  block := by
    obtain ⟨runs, fetched⟩ := upcoming?_eq_some_iff.1 upcoming
    refine agrees.readBytes_eq fun address above below member => ?_
    exact outside address member ⟨runs, .inr (.inr ⟨word, fetched, above, below⟩)⟩
  drawing x y sprite _ := by rw [same]
  byte _ _ _ := by rw [same]

/-- They execute the same instruction, if they execute one. -/
lemma executed?_within : right.executed? .cycle = left.executed? .cycle := by
  have near := near_within same agrees
  have fetched := fetch_within same agrees outside
  have upcoming : right.upcoming? = left.upcoming? := by
    unfold upcoming?
    rw [near.isWaiting]
    split
    · rfl
    · next runs => rw [fetched (Bool.eq_false_iff.2 runs)]
  have stepped := agree_step (Leeway.isKept_within region) near fetched
    fun word => findsSame_within same agrees outside
  unfold executed?
  dsimp only
  rw [upcoming]
  generalize left.step = first at stepped
  generalize right.step = second at stepped
  cases stepped <;> rfl

lemma written?_within (address : Nat) : right.written? address = left.written? address := by
  have processor : right.processor = left.processor := by rw [same]
  unfold written?
  rw [executed?_within same agrees outside, processor]

end

/-- Memory is read only where a cycle looks at it. Two machines that differ in a region of memory at
which the one does not look come to the same end in a cycle. They are left with the same processor, screen,
keypad and source of random bytes, and with memories that differ in the region at most. There, every
byte is written alike on both or is what it was. -/
theorem cycle_looksAt {left right : Machine} (same : right = { left with memory := right.memory })
    (agrees : left.memory.AgreesOutside region right.memory)
    (outside : ∀ address ∈ region, ¬left.LooksAt address) :
    let left' := leaves left.cycle
    let right' := leaves right.cycle
    outcome left.cycle = outcome right.cycle ∧ right' = { left' with memory := right'.memory } ∧
    left'.memory.AgreesOutside region right'.memory ∧
    ∀ address ∈ region, (inside : address < 4096) →
      (∃ instruction byte, left.executed? .cycle = some instruction ∧
        right.executed? .cycle = some instruction ∧ instruction.stores = true ∧
        left.written? address = some byte ∧ right.written? address = some byte ∧
        left'.memory.data[address] = byte ∧ right'.memory.data[address] = byte) ∨
      (left'.memory.data[address] = left.memory.data[address] ∧
        right'.memory.data[address] = right.memory.data[address]) := by
  intro left' right'
  have cycled := agree_cycle (Leeway.isKept_within region) (near_within same agrees)
    (fetch_within same agrees outside) fun word => findsSame_within same agrees outside
  have near : Near (.within region) left' right' := cycled.leaves
  have alike : right' = { left' with memory := right'.memory } :=
    near.eq_of_parts rfl near.stack rfl near.random near.spritesWrap
  refine ⟨cycled.outcome_eq, alike, near.memory, fun address member inside => ?_⟩
  have written := written?_within same agrees outside address
  have byte := data_cycle left inside
  have byte' := data_cycle right inside
  rw [written] at byte'
  cases known : left.written? address with
  | none =>
    right
    rw [known] at byte byte'
    exact ⟨byte, byte'⟩
  | some entry =>
    left
    obtain ⟨instruction, executed, stores⟩ := stores_of_written? known
    rw [known] at byte byte'
    exact ⟨instruction, entry, executed, (executed?_within same agrees outside).trans executed,
      stores, rfl, written.trans known, byte, byte'⟩

/-- A program that stores two registers at `0x300` and then waits for a key. -/
def storeAndWaitRom : Rom where
  bytes := [0xA3, 0x00, 0x61, 0x2A, 0xF1, 0x55, 0xF2, 0x0A]
  fits := by decide

/-- A machine that is about to store the registers. -/
def storing : Machine :=
  (powerOn storeAndWaitRom (.ofStream fun count => count) false).operateAll [.cycle, .cycle]

/-- The machine with other bytes from an address on. -/
def scribble (machine : Machine) (start : Nat) (bytes : List UInt8) : Machine :=
  { machine with
    memory := { machine.memory with data := overwrite machine.memory.data start bytes } }

/-- Storing covers what was different inside the block and leaves what was different behind it. While
the machine waits, not even the program has to be there. -/
theorem cycle_looksAt_at_store :
    let right := storing.scribble 0x301 [7, 9]
    let waiting := storing.operateAll [.cycle, .cycle]
    let erased := waiting.scribble 0x200 (.replicate 8 0)
    ((leaves storing.cycle).memory.data[0x301] = 0x2A ∧
      (leaves right.cycle).memory.data[0x301] = 0x2A) ∧
    ((leaves storing.cycle).memory.data[0x302] = 0 ∧
      (leaves right.cycle).memory.data[0x302] = 9) ∧
    waiting.isWaiting = true ∧ outcome waiting.cycle = outcome erased.cycle ∧
      (leaves erased.cycle).processor = (leaves waiting.cycle).processor := by
  intro right waiting erased
  have place : storing.processor.pc = 0x204 ∧ storing.fetch = .ok 0xF155 := by decide +kernel
  have apart (address : Nat) (member : address ∈ Set.Ico 0x301 0x303) :
      ¬storing.LooksAt address := by
    rw [Set.mem_Ico] at member
    rintro ⟨-, first | second | ⟨word, fetched, above, below⟩⟩
    · rw [place.1, show (0x204 : UInt16).toNat = 0x204 from rfl] at first
      omega
    · rw [place.1, show (0x204 : UInt16).toNat = 0x204 from rfl] at second
      omega
    · -- Registers are stored without anything being read.
      have known := Except.ok.inj (fetched.symm.trans place.2)
      have nothing : (Instruction.decode 0xF155).blockRead = 0 := by decide
      rw [known, nothing] at below
      omega
  obtain ⟨-, -, -, bytes⟩ := cycle_looksAt (show right = { storing with memory := right.memory } from rfl)
    (storing.memory.agreesOutside_overwrite 0x301 [7, 9]) apart
  have values : storing.memory.data[0x301] = 0 ∧ (leaves storing.cycle).memory.data[0x301] = 0x2A ∧
      storing.written? 0x302 = none ∧ storing.memory.data[0x302] = 0 ∧
      (storing.scribble 0x301 [7, 9]).memory.data[0x302] = 9 := by decide +kernel
  refine ⟨⟨values.2.1, ?_⟩, ?_, ?_⟩
  · rcases bytes 0x301 (by simp) (by decide) with
      ⟨_, byte, -, -, -, -, -, after, after'⟩ | ⟨kept, -⟩
    · exact after'.trans (after.symm.trans values.2.1)
    · rw [values.1, values.2.1] at kept
      cases kept
  · rcases bytes 0x302 (by simp) (by decide) with ⟨_, byte, -, -, -, written, -⟩ | ⟨kept, kept'⟩
    · rw [values.2.2.1] at written
      cases written
    · exact ⟨kept.trans values.2.2.2.1, kept'.trans values.2.2.2.2⟩
  · have waits : waiting.isWaiting = true := by decide +kernel
    have apart (address : Nat) : ¬waiting.LooksAt address := by
      intro looks
      rw [LooksAt, waits] at looks
      cases looks.1
    obtain ⟨ends, same, -, -⟩ :=
      cycle_looksAt (show erased = { waiting with memory := erased.memory } from rfl)
        (waiting.memory.agreesOutside_overwrite 0x200 (.replicate 8 0)) fun address _ => apart address
    refine ⟨waits, ends, ?_⟩
    rw [same]

end Machine

end Chip8
