import Chip8.Proofs.Raw.Operations
import Chip8.Session.Command

/-!
# Blocks of memory

Memory is read and written in blocks, and the two ends of a block tell whether it is accepted. A write
that is accepted puts its bytes in place and leaves all others alone, one that is refused changes nothing,
and writes to different places can change their order (`Memory.writes_are_local`). A read gives back
exactly the block or is refused (`Memory.ReadsExactly`), with one exception: a host may ask for a negative
number of bytes, and then a block can pass the test that is no block at all (`Memory.RunsBack`).
-/

namespace Chip8

namespace Memory

variable {memory : Memory} {address count : Int} {byte : UInt8}

/-! ## What memory holds -/

/-- An address holds a byte. -/
def Holds (memory : Memory) (address : Int) (byte : UInt8) : Prop :=
  ∃ place : Fin 4096, (place : Int) = address ∧ memory.data.get place = byte

/-- Bytes stand one after the other from an address on. -/
def Stores (memory : Memory) (start : Int) (bytes : List UInt8) : Prop :=
  ∀ (i : Nat) (inside : i < bytes.length), memory.Holds (start + i) bytes[i]

lemma holds_natCast (place : Fin 4096) : memory.Holds place (memory.data.get place) :=
  ⟨place, rfl, rfl⟩

/-- An address holds no two bytes. -/
lemma Holds.unique {byte' : UInt8} (holds : memory.Holds address byte)
    (holds' : memory.Holds address byte') : byte = byte' := by
  obtain ⟨place, rfl, rfl⟩ := holds
  obtain ⟨place', same, rfl⟩ := holds'
  obtain rfl : place' = place := Fin.ext (Int.ofNat.inj same)
  rfl

/-- As many bytes that stand in the same place are the same. -/
lemma Stores.unique {start : Int} {bytes bytes' : List UInt8} (stores : memory.Stores start bytes)
    (stores' : memory.Stores start bytes') (length : bytes'.length = bytes.length) :
    bytes' = bytes :=
  List.ext_getElem length fun i inside' inside => (stores' i inside').unique (stores i inside)

/-- Bytes that overwrite others stand in their place. -/
lemma stores_overwrite (memory : Memory) {start : Nat} {bytes : List UInt8}
    (inside : start + bytes.length ≤ 4096) (imageSize : Nat) :
    Stores { data := overwrite memory.data start bytes, imageSize } start bytes := by
  intro i below
  have place : start + i < 4096 := by omega
  refine ⟨⟨start + i, place⟩, by push_cast; rfl, ?_⟩
  show (overwrite memory.data start bytes)[start + i] = _
  rw [getElem_overwrite, if_pos (by omega), Nat.add_sub_cancel_left, List.getElem?_eq_getElem below]
  rfl

/-- A single byte is read where an address holds it. -/
lemma read_of_holds (holds : memory.Holds address byte) : memory.read address = .ok byte := by
  obtain ⟨place, rfl, rfl⟩ := holds
  have inside : Within place 1 := by
    unfold Within
    omega
  unfold read
  rw [dif_pos inside]
  rfl

/-- A word is read where two addresses hold its bytes. -/
lemma readWord_of_holds {high low : UInt8} (first : memory.Holds address high)
    (second : memory.Holds (address + 1) low) :
    memory.readWord address = .ok (high.toUInt16 * 256 + low.toUInt16) := by
  obtain ⟨place, rfl, rfl⟩ := first
  obtain ⟨⟨_, below⟩, next, rfl⟩ := second
  have next : _ = place.val + 1 := Int.ofNat.inj next
  subst next
  have inside : Within place 2 := by
    unfold Within
    omega
  unfold readWord
  rw [dif_pos inside]
  rfl

/-! ## Reading -/

/-- A slice consists of the bytes from its start on. -/
lemma stores_slice (memory : Memory) (start stop : Nat) :
    memory.Stores start (memory.slice start stop) := by
  intro i inside
  have below : start + i < 4096 := by
    rw [length_slice] at inside
    omega
  have entry : (memory.slice start stop)[i] = memory.data[start + i] := by simp [slice]
  exact ⟨⟨start + i, below⟩, by push_cast; rfl, entry.symm⟩

/-- A negative number of bytes is asked for, and yet the block passes the test: neither end is on the wrong
side. -/
def RunsBack (address count : Int) : Prop := 0 ≤ address ∧ count < 0 ∧ address + count ≤ 4096

/-- A block is read as it should be. If it lies inside memory all its bytes come back in order, and
otherwise the read is refused. -/
def ReadsExactly (memory : Memory) (address count : Int) : Prop :=
  match memory.readBytes address count with
  | .ok bytes =>
    (0 ≤ address ∧ 0 ≤ count ∧ address + count ≤ 4096) ∧ bytes.length = count ∧
      memory.Stores address bytes
  | .error cause =>
    ¬(0 ≤ address ∧ 0 ≤ count ∧ address + count ≤ 4096) ∧
      ∃ blamed, cause = .memoryAccess blamed

/-- What comes back from a block that passes the test begins at its address. There are as many bytes as were
asked for, or as many as there are before the end of the block if that is counted back. -/
lemma readBytes_of_within (memory : Memory) (inside : Within address count) :
    ∃ bytes, memory.readBytes address count = .ok bytes ∧ memory.Stores address bytes ∧
      bytes.length =
        (if 0 ≤ count then count else if 0 ≤ address + count then 0 else 4096 + count).toNat := by
  obtain ⟨begins, ends⟩ := id inside
  obtain ⟨start, rfl⟩ := Int.eq_ofNat_of_zero_le begins
  refine ⟨_, if_pos inside, stores_slice _ _ _, ?_⟩
  rw [length_slice, blockEnd, Int.toNat_natCast]
  split <;> split <;> omega

/-- Blocks are read exactly or refused, unless they run back. From one that does there comes back nothing,
or, if it ends before address zero, all bytes up to an end that is counted back from the end of memory. A
host of the session gets what memory answers, and on plain lists it is what the slice of a list holds. -/
theorem reads_exactly_or_runs_back (memory : Memory) (address count : Int) :
    (memory.ReadsExactly address count ↔ ¬RunsBack address count) ∧
    (RunsBack address count →
      ∃ bytes, memory.readBytes address count = .ok bytes ∧ memory.Stores address bytes ∧
        bytes.length = if 0 ≤ address + count then 0 else (4096 + count).toNat) ∧
    (∀ session : Session, session.machine.memory = memory →
      Session.perform (.read address count) session =
        match memory.readBytes address count with
        | .ok bytes => .ok (.bytes bytes) session
        | .error cause => .error (.fault { cause }) session) ∧
    ∀ machine : Machine, machine.memory = memory →
      Raw.readBytes address count machine.toRaw =
        match memory.readBytes address count with
        | .ok bytes => .ok (Raw.numbers bytes) machine.toRaw
        | .error cause => .error (.error (.fault { cause })) machine.toRaw := by
  refine ⟨?_, ?_, ?_, ?_⟩
  · unfold ReadsExactly RunsBack
    by_cases inside : Within address count
    · obtain ⟨bytes, read, stores, length⟩ := memory.readBytes_of_within inside
      obtain ⟨begins, ends⟩ := inside
      rw [read]
      dsimp only
      constructor
      · rintro ⟨⟨-, positive, -⟩, -, -⟩ ⟨-, negative, -⟩
        omega
      · intro forward
        have positive : 0 ≤ count := by omega
        rw [if_pos positive] at length
        exact ⟨⟨begins, positive, ends⟩, by omega, stores⟩
    · unfold readBytes
      rw [if_neg inside]
      unfold Within at inside
      exact ⟨fun _ _ => by omega, fun _ => ⟨by omega, _, rfl⟩⟩
  · rintro ⟨begins, negative, ends⟩
    obtain ⟨bytes, read, stores, length⟩ := memory.readBytes_of_within ⟨begins, ends⟩
    refine ⟨bytes, read, stores, ?_⟩
    rw [length, if_neg (by omega)]
    split <;> rfl
  · rintro session rfl
    rw [Session.perform, run_bind, run_get]
    dsimp only
    cases session.machine.memory.readBytes address count <;> rfl
  · rintro machine rfl
    exact Raw.run_readBytes address count machine

/-- Two blocks of negative size that are not refused. One begins behind the end of memory and gives nothing,
the other one gives the byte that it begins with. -/
theorem block_runs_back :
    (¬blank.ReadsExactly 5000 (-1000) ∧ blank.readBytes 5000 (-1000) = .ok []) ∧
    ¬blank.ReadsExactly 4094 (-4095) ∧ blank.readBytes 4094 (-4095) = .ok [0] := by
  have nothing : blank.readBytes 5000 (-1000) = .ok [] := by decide +kernel
  have one : blank.readBytes 4094 (-4095) = .ok [0] := by decide +kernel
  refine ⟨⟨?_, nothing⟩, ?_, one⟩
  · unfold ReadsExactly
    rw [nothing]
    rintro ⟨⟨-, positive, -⟩, -, -⟩
    omega
  · unfold ReadsExactly
    rw [one]
    rintro ⟨⟨-, positive, -⟩, -, -⟩
    omega

/-! ## Writing -/

/-- What a host can put into memory: a number, numbers one after the other, or an image in the program
area. -/
inductive Write
  | byte (address number : Int)
  | bytes (address : Int) (numbers : List Int)
  | image (rom : List UInt8)

namespace Write

/-- Where the block begins. -/
def start : Write → Int
  | .byte address _ | .bytes address _ => address
  | .image _ => 0x200

/-- The numbers that are to be written, of which the low eight bits count. -/
def numbers : Write → List Int
  | .byte _ number => [number]
  | .bytes _ numbers => numbers
  | .image rom => Raw.numbers rom

/-- The bytes that are written. -/
def block (write : Write) : List UInt8 := write.numbers.map .ofInt

/-- The addresses of the block. -/
def range (write : Write) : Set Int := Set.Ico write.start (write.start + write.numbers.length)

/-- The size that memory keeps if an image is written. -/
def imageSize? : Write → Option Nat
  | .image rom => some rom.length
  | _ => none

/-- What is said when the block is refused. -/
def refusal : Write → Error
  | .byte address _ | .bytes address _ =>
    .fault { cause := .memoryAccess (if 0 ≤ address ∧ address < 4096 then 4096 else address) }
  | .image rom => .load { failure := .tooLarge rom.length }

/-- The operation of a host that writes the block. -/
def operation : Write → Machine.Operation
  | .byte address number => .write address number
  | .bytes address numbers => .writeBytes address numbers
  | .image rom => .loadRom rom

end Write

/-- Memory after a write, unless it is refused. -/
def carryOut (memory : Memory) : Write → Except Error Memory
  | .byte address number => (memory.write address (.ofInt number)).mapError (.fault { cause := · })
  | .bytes address numbers =>
    (memory.writeBytes address (numbers.map .ofInt)).mapError (.fault { cause := · })
  | .image rom => (Rom.ofFile none rom).map memory.load

/-- A write has been carried out. Its numbers stand in their places, cut to eight bits, all other bytes are
as before, and every way to read gives back what was written. -/
structure Written (before : Memory) (write : Write) (after : Memory) : Prop where
  holds : ∀ (i : Nat) (inside : i < write.numbers.length),
    ∃ byte, after.Holds (write.start + i) byte ∧ (byte.toNat : Int) = write.numbers[i] % 256
  keeps : ∀ place : Fin 4096, (place : Int) ∉ write.range → after.data.get place = before.data.get place
  imageSize : after.imageSize = write.imageSize?.getD before.imageSize
  readBytes : ∃ bytes, after.readBytes write.start write.numbers.length = .ok bytes ∧
    Raw.numbers bytes = write.numbers.map (· % 256)
  read : ∀ (i : Nat) (inside : i < write.numbers.length),
    ∃ byte, after.read (write.start + i) = .ok byte ∧ (byte.toNat : Int) = write.numbers[i] % 256
  readWord : ∀ (i : Nat) (inside : i + 1 < write.numbers.length),
    ∃ word, after.readWord (write.start + i) = .ok word ∧
      (word.toNat : Int) = 256 * (write.numbers[i] % 256) + write.numbers[i + 1] % 256

variable {write other : Write}

lemma Write.length_block (write : Write) : write.block.length = write.numbers.length :=
  List.length_map _

/-- Memory with the block of a write in place. -/
def put (memory : Memory) (write : Write) : Memory where
  data := overwrite memory.data write.start.toNat write.block
  imageSize := write.imageSize?.getD memory.imageSize

lemma refusal_eq (address : Int) :
    refusal address = .memoryAccess (if 0 ≤ address ∧ address < 4096 then 4096 else address) := by
  unfold refusal blamed
  congr 1
  split <;> split <;> omega

lemma carryOut_bytes (memory : Memory) (address : Int) (numbers : List Int) :
    memory.carryOut (.bytes address numbers) =
      if Within address numbers.length then .ok (memory.put (.bytes address numbers))
      else .error (Write.bytes address numbers).refusal := by
  unfold carryOut writeBytes
  dsimp only
  rw [List.length_map, refusal_eq]
  split <;> rfl

lemma map_ofInt_numbers (bytes : List UInt8) : (Raw.numbers bytes).map .ofInt = bytes := by
  have same (byte : UInt8) : UInt8.ofInt (Raw.number byte) = byte := by
    apply Raw.number_inj.1
    rw [Raw.number_ofInt]
    exact Int.emod_eq_of_lt (Raw.number_nonneg byte) (Raw.number_lt byte)
  rw [Raw.numbers, List.map_map]
  exact (List.map_congr_left fun byte _ => same byte).trans (List.map_id bytes)

lemma carryOut_image (memory : Memory) (rom : List UInt8) :
    memory.carryOut (.image rom) =
      if Within 0x200 (Raw.numbers rom).length then .ok (memory.put (.image rom))
      else .error (Write.image rom).refusal := by
  show (Rom.ofFile none rom).map memory.load = _
  unfold Rom.ofFile Rom.ofBytes
  rw [Raw.length_numbers]
  by_cases fits : rom.length ≤ 3584
  · rw [dif_pos fits, if_pos (by unfold Within; omega)]
    have block : (Write.image rom).block = rom := map_ofInt_numbers rom
    unfold put
    rw [block]
    rfl
  · rw [dif_neg fits, if_neg (by unfold Within; omega)]
    rfl

/-- A write whose block lies inside memory puts it in place, any other is refused. -/
lemma carryOut_eq (memory : Memory) (write : Write) :
    memory.carryOut write =
      if Within write.start write.numbers.length then .ok (memory.put write)
      else .error write.refusal := by
  cases write with
  | byte address number => exact memory.carryOut_bytes address [number]
  | bytes address numbers => exact memory.carryOut_bytes address numbers
  | image rom => exact memory.carryOut_image rom

section
variable (inside : Within write.start write.numbers.length)
include inside

/-- The block stands where it is put. -/
lemma stores_put (memory : Memory) : (memory.put write).Stores write.start write.block := by
  obtain ⟨begins, ends⟩ := inside
  obtain ⟨start, start_eq⟩ := Int.eq_ofNat_of_zero_le begins
  have length := write.length_block
  have room : start + write.block.length ≤ 4096 := by omega
  have stores := stores_overwrite memory room (write.imageSize?.getD memory.imageSize)
  unfold put
  rw [start_eq, Int.toNat_natCast]
  exact stores

/-- Elsewhere everything stays as it was. -/
lemma data_put_of_notMem (memory : Memory) {place : Fin 4096}
    (outside : (place : Int) ∉ write.range) :
    (memory.put write).data.get place = memory.data.get place := by
  obtain ⟨begins, ends⟩ := inside
  have length := write.length_block
  unfold Write.range at outside
  rw [Set.mem_Ico] at outside
  exact getElem_overwrite_of_outside memory.data _ place _ place.isLt (by omega)

/-- In its place the block covers whatever was there. -/
lemma data_put_congr (memory memory' : Memory) {place : Fin 4096}
    (member : (place : Int) ∈ write.range) :
    (memory.put write).data.get place = (memory'.put write).data.get place := by
  obtain ⟨begins, ends⟩ := member
  obtain ⟨i, distance⟩ := Int.eq_ofNat_of_zero_le (Int.sub_nonneg.2 begins)
  have below : i < write.block.length := by
    rw [write.length_block]
    omega
  have here : (place : Int) = write.start + i := by omega
  have holds := stores_put inside memory i below
  have holds' := stores_put inside memory' i below
  rw [← here] at holds holds'
  exact ((holds_natCast place).unique holds).trans ((holds_natCast place).unique holds').symm

lemma written_put (memory : Memory) : Written memory write (memory.put write) := by
  have length := write.length_block
  have stores := stores_put inside memory
  have number (i : Nat) (below : i < write.block.length) :
      (write.block[i].toNat : Int) = write.numbers[i] % 256 := by
    have entry : write.block[i] = .ofInt write.numbers[i] := List.getElem_map _
    rw [entry]
    exact Raw.number_ofInt _
  constructor
  case holds =>
    intro i below
    exact ⟨_, stores i (by omega), number i (by omega)⟩
  case keeps =>
    intro place outside
    exact data_put_of_notMem inside memory outside
  case imageSize => rfl
  case readBytes =>
    obtain ⟨bytes, read, stores', length'⟩ := (memory.put write).readBytes_of_within inside
    rw [if_pos (by omega)] at length'
    obtain rfl := stores.unique stores' (by omega)
    refine ⟨_, read, ?_⟩
    rw [Raw.numbers, Write.block, List.map_map]
    exact List.map_congr_left fun n _ => Raw.number_ofInt n
  case read =>
    intro i below
    exact ⟨_, read_of_holds (stores i (by omega)), number i (by omega)⟩
  case readWord =>
    intro i below
    have first := stores i (by omega)
    have second := stores (i + 1) (by omega)
    rw [Nat.cast_add_one, ← add_assoc] at second
    refine ⟨_, readWord_of_holds first second, ?_⟩
    rw [Raw.toNat_word, ← number i (by omega), ← number (i + 1) (by omega)]
    rfl

end

/-- Blocks that are put in different places can be put in any order. -/
lemma data_put_put (inside : Within write.start write.numbers.length)
    (inside' : Within other.start other.numbers.length) (apart : Disjoint write.range other.range)
    (memory : Memory) :
    ((memory.put write).put other).data = ((memory.put other).put write).data := by
  have apart := Set.disjoint_left.1 apart
  apply Vector.ext
  intro i below
  show ((memory.put write).put other).data.get ⟨i, below⟩ =
    ((memory.put other).put write).data.get ⟨i, below⟩
  by_cases first : (i : Int) ∈ write.range
  · rw [data_put_of_notMem inside' _ (apart first)]
    exact data_put_congr inside _ _ first
  · rw [data_put_of_notMem inside _ first]
    by_cases second : (i : Int) ∈ other.range
    · exact data_put_congr inside' _ _ second
    · rw [data_put_of_notMem inside' _ second, data_put_of_notMem inside' _ second,
        data_put_of_notMem inside _ first]

lemma carryOut_eq_ok_iff {after : Memory} : memory.carryOut write = .ok after ↔
    Within write.start write.numbers.length ∧ after = memory.put write := by
  rw [carryOut_eq]
  split
  next inside => simp [inside, eq_comm]
  next outside => simp [outside]

/-- A write is accepted if its block lies inside memory. -/
lemma exists_carryOut_iff : (∃ after, memory.carryOut write = .ok after) ↔
    0 ≤ write.start ∧ write.start + write.numbers.length ≤ 4096 := by
  constructor
  · rintro ⟨after, done⟩
    exact (carryOut_eq_ok_iff.1 done).1
  · intro inside
    exact ⟨_, carryOut_eq_ok_iff.2 ⟨inside, rfl⟩⟩

/-- Plain lists take a write as memory does. -/
lemma run_operate_write (write : Write) (machine : Machine) :
    Raw.operate write.operation machine.toRaw =
      match machine.memory.carryOut write with
      | .ok memory => .ok () ({ machine with memory } : Machine).toRaw
      | .error error => .error (.error error) machine.toRaw := by
  cases write with
  | byte address number =>
    refine (Raw.run_write address number machine).trans ?_
    unfold carryOut
    dsimp only
    cases machine.memory.write address (.ofInt number) <;> rfl
  | bytes address numbers =>
    refine (Raw.run_writeBytes_ofInt address numbers machine).trans ?_
    unfold carryOut
    dsimp only
    cases machine.memory.writeBytes address (numbers.map .ofInt) <;> rfl
  | image rom =>
    unfold carryOut Rom.ofFile Rom.ofBytes
    dsimp only
    by_cases fits : rom.length ≤ 3584
    · rw [dif_pos fits]
      exact Raw.run_loadRom { bytes := rom, fits } machine
    · rw [dif_neg fits]
      exact Raw.run_loadRom_of_tooLarge (by omega) machine.toRaw

/-- Writes are all or nothing, and local: whether they put a number, a list of numbers or an image in its
place, they are accepted if the block lies inside memory, and then nothing changes but the block. Of writes
in different places either may come first, only the size of the image is that of the later one if both put
an image. On plain lists a write that is refused changes nothing, and one that is accepted does not change
the length of memory. -/
theorem writes_are_local (memory : Memory) (write : Write) :
    ((∃ after, memory.carryOut write = .ok after) ↔
      0 ≤ write.start ∧ write.start + write.numbers.length ≤ 4096) ∧
    (∀ rom, (∃ after, memory.carryOut (.image rom) = .ok after) ↔ rom.length ≤ 3584) ∧
    (∀ after, memory.carryOut write = .ok after → memory.Written write after) ∧
    (∀ error, memory.carryOut write = .error error → error = write.refusal) ∧
    (∀ other, Disjoint write.range other.range → ∀ first second,
      memory.carryOut write = .ok first → memory.carryOut other = .ok second →
        ∃ both both', first.carryOut other = .ok both ∧ second.carryOut write = .ok both' ∧
          both'.data = both.data ∧
          (write.imageSize? = none ∨ other.imageSize? = none → both' = both)) ∧
    ∀ machine : Machine, machine.memory = memory →
      (leaves (Raw.operate write.operation machine.toRaw)).memory.length = 4096 ∧
      Raw.operate write.operation machine.toRaw =
        match memory.carryOut write with
        | .ok after => .ok () ({ machine with memory := after } : Machine).toRaw
        | .error error => .error (.error error) machine.toRaw := by
  refine ⟨exists_carryOut_iff, ?_, ?_, ?_, ?_, ?_⟩
  · intro rom
    have size : (Write.image rom).numbers.length = rom.length := Raw.length_numbers rom
    have start : (Write.image rom).start = 0x200 := rfl
    rw [exists_carryOut_iff, size, start]
    omega
  · intro after done
    obtain ⟨inside, rfl⟩ := carryOut_eq_ok_iff.1 done
    exact written_put inside memory
  · intro error refused
    rw [carryOut_eq] at refused
    split at refused
    · cases refused
    · cases refused
      rfl
  · intro other apart first second done done'
    obtain ⟨inside, rfl⟩ := carryOut_eq_ok_iff.1 done
    obtain ⟨inside', rfl⟩ := carryOut_eq_ok_iff.1 done'
    have data := data_put_put inside inside' apart memory
    refine ⟨_, _, carryOut_eq_ok_iff.2 ⟨inside', rfl⟩, carryOut_eq_ok_iff.2 ⟨inside, rfl⟩,
      data.symm, ?_⟩
    intro one
    have size : ((memory.put other).put write).imageSize = ((memory.put write).put other).imageSize := by
      unfold put
      rcases one with none | none <;> simp [none]
    exact congrArg₂ Memory.mk data.symm size
  · rintro machine rfl
    have run := run_operate_write write machine
    refine ⟨?_, run⟩
    rw [run]
    cases machine.memory.carryOut write <;> exact Raw.length_numbers_toList _

/-- At the end of memory there is room for one byte and not for two, and behind it not even for none. -/
theorem writes_are_local_at_end :
    (∃ after, blank.carryOut (.bytes 4095 [-1]) = .ok after ∧ after.read 4095 = .ok 255) ∧
    (∀ error, blank.carryOut (.bytes 4095 [-1, 0]) = .error error →
      error = .fault { cause := .memoryAccess 4096 }) ∧
    (¬∃ after, blank.carryOut (.bytes 4095 [-1, 0]) = .ok after) ∧
    (∃ after, blank.carryOut (.bytes 4096 []) = .ok after) ∧
    ¬∃ after, blank.carryOut (.bytes 4097 []) = .ok after := by
  obtain ⟨one, -, written, -⟩ := writes_are_local blank (.bytes 4095 [-1])
  obtain ⟨two, -, -, refused, -⟩ := writes_are_local blank (.bytes 4095 [-1, 0])
  obtain ⟨none, -⟩ := writes_are_local blank (.bytes 4096 [])
  obtain ⟨behind, -⟩ := writes_are_local blank (.bytes 4097 [])
  refine ⟨?_, refused, mt two.1 (by decide), none.2 (by decide), mt behind.1 (by decide)⟩
  obtain ⟨after, done⟩ := one.2 (by decide)
  obtain ⟨byte, read, low⟩ := (written after done).read 0 (by decide)
  have byte_eq : byte = 255 := by
    apply UInt8.toNat.inj
    have : ((-1 : Int) % 256) = 255 := rfl
    show _ = 255
    change _ = (-1 : Int) % 256 at low
    omega
  rw [byte_eq] at read
  exact ⟨after, done, read⟩

end Memory

end Chip8
