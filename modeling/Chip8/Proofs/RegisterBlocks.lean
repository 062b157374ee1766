import Chip8.Proofs.InstructionFaults
import Chip8.Proofs.MemoryBlocks

/-!
# Storing and loading registers

Two instructions move the first registers to memory and back, as one block from the index register on. The
machine that they leave is written down (`Machine.stored`, `Machine.loaded`), and what it holds is said
register by register and byte by byte. So they undo each other: registers that were stored come back
whatever has happened to them since, and registers that were loaded are stored without a trace
(`Machine.store_and_load_undo_each_other`).
-/

namespace Chip8

/-! ## Words -/

namespace Word

/-- The word that stores the registers up to and including one. -/
def store (x : Register) : UInt16 := .ofNat (0xF055 + 0x100 * x)

/-- The word that loads the registers up to and including one. -/
def load (x : Register) : UInt16 := .ofNat (0xF065 + 0x100 * x)

lemma decode_store (x : Register) : Instruction.decode (store x) = .storeRegisters x := by
  revert x
  decide

lemma decode_load (x : Register) : Instruction.decode (load x) = .loadRegisters x := by
  revert x
  decide

end Word

namespace Machine

variable {machine : Machine} {x z : Register}

/-! ## What the instructions do -/

/-- Memory with registers stored in it. -/
def storedMemory (machine : Machine) (x : Register) : Memory where
  data := overwrite machine.memory.data machine.processor.index.toNat
    (machine.processor.v.toList.take (x + 1))
  imageSize := machine.memory.imageSize

/-- The machine after it has stored registers. -/
def stored (machine : Machine) (x : Register) : Machine :=
  ({ machine with memory := machine.storedMemory x } : Machine).mapProcessor .advance

/-- The registers after some of them have been loaded. -/
def loadedRegisters (machine : Machine) (x : Register) : Vector UInt8 16 :=
  let start := machine.processor.index.toNat
  overwrite machine.processor.v 0 (machine.memory.slice start (start + (x + 1)))

/-- The machine after it has loaded registers. -/
def loaded (machine : Machine) (x : Register) : Machine :=
  machine.mapProcessor fun processor =>
    ({ processor with v := machine.loadedRegisters x } : Processor).advance

/-- The block of the registers lies inside memory. -/
def HasRoom (machine : Machine) (x : Register) : Prop :=
  machine.processor.index.toNat + (x + 1) ≤ 4096

/-- A word is executed, and on plain lists as well. -/
def Completes (machine : Machine) (word : UInt16) (after : Machine) : Prop :=
  machine.execute word = .ok () after ∧ Raw.execute word.toNat machine.toRaw = .ok () after.toRaw

/-- A word is refused and nothing changes, and so it is on plain lists. -/
def Refuses (machine : Machine) (word : UInt16) (fault : Fault) : Prop :=
  machine.execute word = .error fault machine ∧
    Raw.execute word.toNat machine.toRaw = .error (.error (.fault fault)) machine.toRaw

lemma completes_of_perform {word : UInt16} {after : Machine}
    (performed : perform (.decode word) machine = .ok () after) : machine.Completes word after := by
  constructor
  · unfold execute
    rw [run_adaptExcept, performed]
  · rw [Raw.run_execute, performed]

lemma refuses_of_perform {word : UInt16} {cause : Fault.Cause}
    (refused : perform (.decode word) machine = .error cause machine) :
    machine.Refuses word (cause.reported machine.processor.pc word) := by
  constructor
  · unfold execute
    rw [run_adaptExcept, refused]
  · rw [Raw.run_execute, refused]

lemma length_registers (machine : Machine) (x : Register) :
    (machine.processor.v.toList.take (x + 1)).length = x + 1 := by
  rw [List.length_take, Vector.length_toList]
  omega

lemma completes_store (room : machine.HasRoom x) :
    machine.Completes (Word.store x) (machine.stored x) := by
  have inside : Memory.Within machine.processor.index.toNat
      (machine.processor.v.toList.take (x + 1)).length := by
    rw [length_registers]
    exact Memory.within_natCast.2 room
  apply completes_of_perform
  rw [Word.decode_store, perform, run_bind, run_get]
  dsimp only
  rw [run_bind, run_writeBlock, Memory.writeBytes, if_pos inside]
  rfl

lemma completes_load (room : machine.HasRoom x) :
    machine.Completes (Word.load x) (machine.loaded x) := by
  apply completes_of_perform
  rw [Word.decode_load, perform, run_bind, run_readBlock, Memory.readBytes_natCast room]
  rfl

/-- Without room both are refused. -/
lemma refuses_of_no_room (narrow : ¬machine.HasRoom x) :
    let fault : Fault := { cause := Memory.refusal machine.processor.index.toNat }
    machine.Refuses (Word.store x) fault ∧ machine.Refuses (Word.load x) fault := by
  have refused : machine.blockFault? (x + 1) =
      some (Memory.refusal machine.processor.index.toNat) := if_neg narrow
  have store := checks_perform (Instruction.decode (Word.store x)) machine
  have load := checks_perform (Instruction.decode (Word.load x)) machine
  rw [show (Instruction.decode (Word.store x)).fault? machine = _ from
    (congrArg _ (Word.decode_store x)).trans refused] at store
  rw [show (Instruction.decode (Word.load x)).fault? machine = _ from
    (congrArg _ (Word.decode_load x)).trans refused] at load
  exact ⟨refuses_of_perform store, refuses_of_perform load⟩

/-! ## Registers and their places -/

/-- Registers are stored in order from the index on. -/
lemma holds_stored (room : machine.HasRoom x) (among : z ≤ x) :
    (machine.storedMemory x).Holds (machine.processor.index.toNat + z) (machine.processor.getV z) := by
  have among : z.val ≤ x.val := among
  let bytes := machine.processor.v.toList.take (x + 1)
  have length : bytes.length = x + 1 := machine.length_registers x
  have inside : machine.processor.index.toNat + bytes.length ≤ 4096 := length ▸ room
  have below : z.val < bytes.length := by omega
  have entry : bytes[z.val] = machine.processor.getV z := by
    rw [List.getElem_take, Vector.getElem_toList]
    rfl
  rw [← entry]
  exact machine.memory.stores_overwrite inside _ z below

/-- Nothing is stored elsewhere. -/
lemma data_stored {place : Fin 4096} (outside : place.val < machine.processor.index.toNat ∨
      machine.processor.index.toNat + x < place) :
    (machine.storedMemory x).data.get place = machine.memory.data.get place := by
  have length := machine.length_registers x
  exact getElem_overwrite_of_outside machine.memory.data _ place _ place.isLt (by omega)

/-- Registers are loaded in order from the index on. -/
lemma holds_loaded (room : machine.HasRoom x) (among : z ≤ x) :
    machine.memory.Holds (machine.processor.index.toNat + z)
      ((machine.loadedRegisters x).get z) := by
  have among : z.val ≤ x.val := among
  let start := machine.processor.index.toNat
  let bytes := machine.memory.slice start (start + (x + 1))
  have inside : z.val < bytes.length := by
    unfold HasRoom at room
    rw [Memory.length_slice]
    omega
  have same : (machine.loadedRegisters x).get z = bytes[z.val] := by
    show (overwrite machine.processor.v 0 bytes)[z.val] = _
    rw [getElem_overwrite, if_pos (by omega), Nat.sub_zero, List.getElem?_eq_getElem inside]
    rfl
  rw [same]
  exact machine.memory.stores_slice _ _ z inside

/-- No other register is loaded. -/
lemma get_loadedRegisters_of_lt (beyond : x < z) :
    (machine.loadedRegisters x).get z = machine.processor.v.get z := by
  have beyond : x.val < z.val := beyond
  refine getElem_overwrite_of_outside machine.processor.v 0 z _ z.isLt (.inr ?_)
  rw [Memory.length_slice]
  omega

/-! ## Back and forth -/

/-- Everything but the registers up to `x` and their places in memory is left alone: the registers beyond
it, the index and all other bytes. -/
structure KeepsBeyond (before : Machine) (x : Register) (after : Machine) : Prop where
  registers : ∀ z, x < z → after.processor.getV z = before.processor.getV z
  index : after.processor.index = before.processor.index
  bytes : ∀ place : Fin 4096, place.val < before.processor.index.toNat ∨
    before.processor.index.toNat + x < place → after.memory.data.get place = before.memory.data.get place

lemma keepsBeyond_stored (machine : Machine) (x : Register) :
    machine.KeepsBeyond x (machine.stored x) where
  registers _ _ := rfl
  index := rfl
  bytes _ outside := data_stored outside

lemma keepsBeyond_loaded (machine : Machine) (x : Register) :
    machine.KeepsBeyond x (machine.loaded x) where
  registers _ beyond := get_loadedRegisters_of_lt beyond
  index := rfl
  bytes _ _ := rfl

lemma KeepsBeyond.advance {before after : Machine} (keeps : before.KeepsBeyond x after) :
    before.KeepsBeyond x (after.mapProcessor .advance) :=
  ⟨keeps.registers, keeps.index, keeps.bytes⟩

section
variable {next : Machine} (room : machine.HasRoom x)
  (index : next.processor.index = machine.processor.index)
include room index

/-- Registers that have been stored come back, whatever they hold by then. -/
lemma loadedRegisters_of_stored (memory : next.memory = machine.storedMemory x)
    (beyond : ∀ z, x < z → next.processor.v.get z = machine.processor.v.get z) :
    next.loadedRegisters x = machine.processor.v := by
  have room' : next.HasRoom x := by
    unfold HasRoom
    rwa [index]
  apply Vector.ext
  intro i below
  let z : Register := ⟨i, below⟩
  show (next.loadedRegisters x).get z = machine.processor.v.get z
  by_cases among : z ≤ x
  · have was := holds_stored room among
    have comes := holds_loaded room' among
    rw [memory, index] at comes
    exact comes.unique was
  · have behind : x < z := not_le.1 among
    rw [get_loadedRegisters_of_lt behind, beyond z behind]

/-- Registers that have been loaded are in memory already. -/
lemma storedMemory_of_loaded (memory : next.memory = machine.memory)
    (registers : next.processor.v = machine.loadedRegisters x) :
    next.storedMemory x = machine.memory := by
  have room' : next.HasRoom x := by
    unfold HasRoom
    rwa [index]
  have data : (next.storedMemory x).data = machine.memory.data := by
    apply Vector.ext
    intro i below
    let place : Fin 4096 := ⟨i, below⟩
    show (next.storedMemory x).data.get place = machine.memory.data.get place
    by_cases outside : i < next.processor.index.toNat ∨ next.processor.index.toNat + x < i
    · rw [data_stored outside, memory]
    · -- Then the place is that of a register.
      obtain ⟨distance, there⟩ := Nat.exists_eq_add_of_le (show next.processor.index.toNat ≤ i by omega)
      let z : Register := ⟨distance, by omega⟩
      have among : z ≤ x := by
        show distance ≤ x.val
        omega
      have here : ((place : Nat) : Int) = next.processor.index.toNat + z := by
        show (i : Int) = next.processor.index.toNat + distance
        omega
      have put := holds_stored room' among
      have was := holds_loaded room among
      rw [Processor.getV, registers, ← here] at put
      rw [← index, ← here] at was
      have put := (Memory.holds_natCast place).unique put
      exact put.trans (was.unique (Memory.holds_natCast place))
  have size : (next.storedMemory x).imageSize = machine.memory.imageSize := by
    rw [← memory]
    rfl
  exact congrArg₂ Memory.mk data size

end

/-- Storing registers and loading them undo each other. What has been stored comes back, whatever has been
done to the registers in the meantime, and storing what has been loaded changes nothing but the program
counter. All the time the registers beyond, the index and the other bytes stay as they are. Where there is
no room for the registers both are refused. -/
theorem store_and_load_undo_each_other (machine : Machine) (x : Register) :
    (machine.processor.index.toNat + x + 1 ≤ 4096 →
      (∃ dumped, machine.Completes (Word.store x) dumped ∧ machine.KeepsBeyond x dumped ∧
        (∀ z ≤ x, dumped.memory.Holds (machine.processor.index.toNat + z) (machine.processor.getV z)) ∧
        ∀ v : Vector UInt8 16, (∀ z, x < z → v.get z = dumped.processor.v.get z) →
          ∃ restored, (dumped.mapProcessor ({ · with v })).Completes (Word.load x) restored ∧
            machine.KeepsBeyond x restored ∧
            (∀ z, restored.processor.getV z = machine.processor.getV z) ∧
            restored = dumped.mapProcessor .advance) ∧
      ∃ filled, machine.Completes (Word.load x) filled ∧ machine.KeepsBeyond x filled ∧
        (∀ z ≤ x, machine.memory.Holds (machine.processor.index.toNat + z) (filled.processor.getV z)) ∧
        ∃ restored, filled.Completes (Word.store x) restored ∧
          machine.KeepsBeyond x restored ∧
          (∀ z, restored.processor.getV z = filled.processor.getV z) ∧
          restored.memory = machine.memory ∧
          restored = filled.mapProcessor .advance) ∧
    (4096 < machine.processor.index.toNat + x + 1 →
      ∃ address, let fault : Fault := { cause := .memoryAccess address }
        machine.Refuses (Word.store x) fault ∧ machine.Refuses (Word.load x) fault) := by
  refine ⟨fun room => ⟨?_, ?_⟩, fun narrow => ⟨_, refuses_of_no_room ?_⟩⟩
  · have room : machine.HasRoom x := room
    refine ⟨_, completes_store room, keepsBeyond_stored machine x,
      fun z among => holds_stored room among, fun v beyond => ?_⟩
    let changed := (machine.stored x).mapProcessor ({ · with v })
    have registers : changed.loadedRegisters x = machine.processor.v :=
      loadedRegisters_of_stored room rfl rfl beyond
    have restored : changed.loaded x = (machine.stored x).mapProcessor .advance := by
      unfold loaded
      rw [registers]
      rfl
    refine ⟨_, completes_load room, ?_, ?_, restored⟩
    · rw [restored]
      exact (keepsBeyond_stored machine x).advance
    · intro z
      rw [restored]
      rfl
  · have room : machine.HasRoom x := room
    refine ⟨_, completes_load room, keepsBeyond_loaded machine x,
      fun z among => holds_loaded room among, ?_⟩
    have memory : (machine.loaded x).storedMemory x = machine.memory :=
      storedMemory_of_loaded room rfl rfl rfl
    have restored : (machine.loaded x).stored x = (machine.loaded x).mapProcessor .advance := by
      unfold stored
      rw [memory]
      rfl
    have room' : (machine.loaded x).HasRoom x := room
    refine ⟨_, completes_store room', ?_, ?_, memory, restored⟩
    · rw [restored]
      exact (keepsBeyond_loaded machine x).advance
    · intro z
      rw [restored]
      rfl
  · exact Nat.not_le.2 narrow

/-- A machine whose index is the last address. -/
def atLastByte : Machine :=
  (powerOn .empty (.ofStream fun _ => 0) false).mapProcessor fun processor =>
    { processor.setV .first 200 with index := 4095 }

/-- The last byte has room for one register and not for two. -/
theorem store_and_load_at_last_byte :
    (∃ dumped, atLastByte.Completes 0xF055 dumped ∧ dumped.memory.Holds 4095 200 ∧
      ∃ restored, (dumped.mapProcessor (·.setV .first 7)).Completes 0xF065 restored ∧
        restored.processor.getV .first = 200) ∧
    ∃ address, let fault : Fault := { cause := .memoryAccess address }
      atLastByte.Refuses 0xF155 fault ∧ atLastByte.Refuses 0xF165 fault := by
  obtain ⟨both, -⟩ := store_and_load_undo_each_other atLastByte 0
  obtain ⟨-, neither⟩ := store_and_load_undo_each_other atLastByte 1
  refine ⟨?_, neither (by decide)⟩
  obtain ⟨⟨dumped, stored, keeps, holds, back⟩, -⟩ := both (by decide)
  obtain ⟨restored, loaded, -, registers, -⟩ := back (dumped.processor.setV .first 7).v fun z beyond =>
    Processor.getV_setV_of_ne (ne_of_gt beyond)
  exact ⟨dumped, stored, holds 0 le_rfl, restored, loaded, registers 0⟩

end Machine

end Chip8
