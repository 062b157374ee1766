import Chip8.Proofs.InstructionFaults
import Chip8.Proofs.WellFormedness
import Chip8.Proofs.WordForms

/-!
# Exactly when a step faults

The faults of a step, told from plain registers and memory: the word at the program counter cannot
be read, or it is a word whose check fails. `Machine.Faults` lists them, each with the numbers and
the place that the fault carries. A well-formed machine that does not wait for a key ends its step
with just these faults, and with no trouble of any other kind (`step_fails_iff`).
-/

namespace Chip8.Raw

/-! ## The faults -/

/-- The two bytes at the program counter form this word, the more significant byte first. -/
def Machine.Reads (machine : Machine) (word : UInt16) : Prop :=
  machine.pc ≤ 4094 ∧ ∃ high low, machine.memory[machine.pc.toNat]? = some high ∧
    machine.memory[machine.pc.toNat + 1]? = some low ∧ (word.toNat : Int) = 256 * high + low

/-- What an instruction word does wrong. A block that leaves memory is blamed on its first address
outside. -/
inductive Machine.Refuses (machine : Machine) (word : UInt16) : Fault.Cause → Prop
  | undefined (unknown : ¬ Word.IsDefined word) : Refuses machine word .undefinedInstruction
  | underflow (returns : Word.IsReturn word) (isEmpty : machine.sp = 0) :
    Refuses machine word .stackUnderflow
  | overflow (calls : Word.IsCall word) (full : machine.sp = 16) :
    Refuses machine word .stackOverflow
  | key {key : Int} (skips : Word.IsKeySkip word)
    (reads : machine.v[(Word.x word).val]? = some key) (tooLarge : 15 < key) :
    Refuses machine word (.invalidKey key)
  | block {size : Nat} (has : Word.HasBlock word size) (leaves : 4096 < machine.index + size) :
    Refuses machine word (.memoryAccess (max machine.index 4096))

/-- The fault that the next step ends with, unless the machine waits for a key. -/
inductive Machine.Faults (machine : Machine) : Fault → Prop
  | fetch (outside : 4094 < machine.pc) :
    Faults machine { cause := .memoryAccess (max machine.pc 4096), pc := some machine.pc }
  | word {word : UInt16} {cause : Fault.Cause} (reads : machine.Reads word)
    (refuses : machine.Refuses word cause) :
    Faults machine { cause, pc := some machine.pc, opcode := some word.toNat }

/-! ## Checks -/

lemma refusal_natCast (address : Nat) :
    Memory.refusal address = .memoryAccess (max address 4096) := by
  unfold Memory.refusal Memory.blamed
  rw [Fault.Cause.memoryAccess.injEq]
  split <;> omega

variable {machine : Chip8.Machine} {cause : Fault.Cause}

lemma popFault?_eq_some_iff :
    machine.popFault? = some cause ↔ machine.toRaw.sp = 0 ∧ cause = .stackUnderflow := by
  rw [Machine.toRaw_sp]
  unfold Machine.popFault?
  by_cases used : 0 < machine.processor.stack.depth
  · have nonempty : (machine.processor.stack.depth : Int) ≠ 0 := by omega
    simp only [if_pos used, reduceCtorEq, nonempty, false_and]
  · have isEmpty : machine.processor.stack.depth = 0 := by omega
    simp [isEmpty, eq_comm]

lemma pushFault?_eq_some_iff :
    machine.pushFault? = some cause ↔ machine.toRaw.sp = 16 ∧ cause = .stackOverflow := by
  have most := machine.processor.stack.depth_le
  rw [Machine.toRaw_sp]
  unfold Machine.pushFault?
  by_cases free : machine.processor.stack.depth < 16
  · have notFull : (machine.processor.stack.depth : Int) ≠ 16 := by omega
    simp [free, notFull]
  · have full : machine.processor.stack.depth = 16 := by omega
    simp [full, eq_comm]

lemma keyFault?_eq_some_iff {x : Register} :
    machine.keyFault? x = some cause ↔
      ∃ key, machine.toRaw.v[x.val]? = some key ∧ 15 < key ∧ cause = .invalidKey key := by
  have read : machine.toRaw.v[x.val]? = some (number (machine.processor.getV x)) :=
    getElem?_numbers x.isLt
  rw [read]
  unfold Machine.keyFault? number
  by_cases isKey : (machine.processor.getV x).toNat < 16
  · have inRange : ¬ 15 < ((machine.processor.getV x).toNat : Int) := by omega
    simp [isKey, inRange]
  · have tooLarge : 15 < ((machine.processor.getV x).toNat : Int) := by omega
    simp [isKey, tooLarge, eq_comm]

lemma blockFault?_eq_some_iff {size : Nat} :
    machine.blockFault? size = some cause ↔
      4096 < machine.toRaw.index + size ∧
        cause = .memoryAccess (max machine.toRaw.index 4096) := by
  rw [Machine.toRaw_index]
  unfold Machine.blockFault?
  by_cases inside : machine.processor.index.toNat + size ≤ 4096
  · have stays : ¬ 4096 < (machine.processor.index.toNat : Int) + size := by omega
    simp [inside, stays]
  · have leaves : 4096 < (machine.processor.index.toNat : Int) + size := by omega
    simp [inside, leaves, refusal_natCast, eq_comm]

/-! ## Words -/

lemma Machine.refuses_iff {raw : Machine} {word : UInt16} :
    raw.Refuses word cause ↔
      ¬ Word.IsDefined word ∧ cause = .undefinedInstruction ∨
      Word.IsReturn word ∧ raw.sp = 0 ∧ cause = .stackUnderflow ∨
      Word.IsCall word ∧ raw.sp = 16 ∧ cause = .stackOverflow ∨
      Word.IsKeySkip word ∧
        (∃ key, raw.v[(Word.x word).val]? = some key ∧ 15 < key ∧ cause = .invalidKey key) ∨
      ∃ size, Word.HasBlock word size ∧ 4096 < raw.index + size ∧
        cause = .memoryAccess (max raw.index 4096) := by
  constructor
  · rintro (unknown | ⟨returns, isEmpty⟩ | ⟨calls, full⟩ | ⟨skips, reads, tooLarge⟩ |
      ⟨has, leaves⟩)
    · exact .inl ⟨unknown, rfl⟩
    · exact .inr (.inl ⟨returns, isEmpty, rfl⟩)
    · exact .inr (.inr (.inl ⟨calls, full, rfl⟩))
    · exact .inr (.inr (.inr (.inl ⟨skips, _, reads, tooLarge, rfl⟩)))
    · exact .inr (.inr (.inr (.inr ⟨_, has, leaves, rfl⟩)))
  · rintro (⟨unknown, rfl⟩ | ⟨returns, isEmpty, rfl⟩ | ⟨calls, full, rfl⟩ |
      ⟨skips, key, reads, tooLarge, rfl⟩ | ⟨size, has, leaves, rfl⟩)
    · exact .undefined unknown
    · exact .underflow returns isEmpty
    · exact .overflow calls full
    · exact .key skips reads tooLarge
    · exact .block has leaves

/-- The fault of the instruction of a word is what the word does wrong. -/
lemma fault?_decode_eq_some_iff {word : UInt16} :
    (Instruction.decode word).fault? machine = some cause ↔
      machine.toRaw.Refuses word cause := by
  have bound := Word.family_lt word
  have flip : Fault.Cause.undefinedInstruction = cause ↔ cause = .undefinedInstruction := eq_comm
  rw [Machine.refuses_iff]
  unfold Instruction.decode Word.IsDefined Word.IsReturn Word.IsCall Word.IsKeySkip Word.HasBlock
  -- In each family at most one kind of word has a check, and the decoder tells it by the same field.
  generalize Word.family word = family at bound
  interval_cases family
  case «0» =>
    simp only [Instruction.decodePlain]
    split <;> simp_all [Instruction.fault?, popFault?_eq_some_iff]
  case «2» => simp [Instruction.fault?, pushFault?_eq_some_iff]
  case «8» =>
    simp only [Instruction.decodeArithmetic]
    split <;> simp_all [Instruction.fault?]
  case «13» => simp [Instruction.fault?, blockFault?_eq_some_iff]
  case «14» =>
    simp only [Instruction.decodeKey]
    split <;> simp_all [Instruction.fault?, keyFault?_eq_some_iff]
  case «15» =>
    simp only [Instruction.decodeTransfer]
    split <;> simp_all [Instruction.fault?, blockFault?_eq_some_iff]
  all_goals simp [Instruction.fault?]

/-! ## Fetching -/

/-- Below the last byte of memory there is a word, and no other. -/
lemma fetch_of_inside (inside : machine.toRaw.pc ≤ 4094) :
    ∃ word, machine.fetch = .ok word ∧
      ∀ other, machine.toRaw.Reads other ↔ other = word := by
  rw [Machine.toRaw_pc] at inside
  have within : Memory.Within machine.processor.pc.toNat 2 := by
    unfold Memory.Within
    omega
  have begins : machine.processor.pc.toNat < 4096 := by omega
  have ends : machine.processor.pc.toNat + 1 < 4096 := by omega
  let word := machine.memory.data[machine.processor.pc.toNat].toUInt16 * 256 +
    machine.memory.data[machine.processor.pc.toNat + 1].toUInt16
  refine ⟨word, ?_, fun other => ?_⟩
  · unfold Machine.fetch Memory.readWord
    rw [dif_pos within]
    rfl
  · unfold Machine.Reads
    rw [Machine.toRaw_pc, Machine.toRaw_memory, Int.toNat_natCast, getElem?_numbers begins,
      getElem?_numbers ends]
    constructor
    -- The bytes are determined by memory, and the word by its bytes.
    · rintro ⟨-, high, low, ⟨⟩, ⟨⟩, same⟩
      rw [← toNat_word] at same
      exact UInt16.toNat_inj.1 (Int.ofNat_inj.1 same)
    · rintro rfl
      exact ⟨inside, _, _, rfl, rfl, toNat_word _ _⟩

/-- From the last byte of memory on there is no word. -/
lemma fetch_of_outside (outside : 4094 < machine.toRaw.pc) :
    machine.fetch = .error
      { cause := .memoryAccess (max machine.toRaw.pc 4096), pc := some machine.toRaw.pc } := by
  rw [Machine.toRaw_pc] at outside ⊢
  have beyond : ¬ Memory.Within machine.processor.pc.toNat 2 := by
    unfold Memory.Within
    omega
  unfold Machine.fetch Memory.readWord
  rw [dif_neg beyond, refusal_natCast]
  rfl

/-! ## Steps -/

lemma Machine.faults_iff_of_outside {raw : Machine} {fault : Fault} (outside : 4094 < raw.pc) :
    raw.Faults fault ↔
      fault = { cause := .memoryAccess (max raw.pc 4096), pc := some raw.pc } := by
  constructor
  · rintro (_ | ⟨⟨inside, _⟩, _⟩)
    · rfl
    · omega
  · rintro rfl
    exact .fetch outside

lemma Machine.faults_iff_of_reads {raw : Machine} {fault : Fault} {word : UInt16}
    (reads : ∀ other, raw.Reads other ↔ other = word) :
    raw.Faults fault ↔ ∃ cause, raw.Refuses word cause ∧
      fault = { cause, pc := some raw.pc, opcode := some word.toNat } := by
  have here := (reads word).2 rfl
  constructor
  · rintro (outside | ⟨reads', refuses⟩)
    · exact absurd here.1 (by omega)
    · obtain rfl := (reads _).1 reads'
      exact ⟨_, refuses, rfl⟩
  · rintro ⟨cause, refuses, rfl⟩
    exact .word here refuses

/-- The fault of the next step is the one that plain registers and memory tell. -/
lemma fault?_eq_some_iff {fault : Fault} :
    machine.fault? = some fault ↔
      machine.isWaiting = false ∧ machine.toRaw.Faults fault := by
  unfold Machine.fault?
  cases waits : machine.isWaiting with
  | true => simp
  | false =>
    by_cases inside : machine.toRaw.pc ≤ 4094
    · obtain ⟨word, fetched, reads⟩ := fetch_of_inside inside
      rw [if_neg Bool.false_ne_true, fetched, Machine.faults_iff_of_reads reads]
      simp only [Option.map_eq_some_iff, fault?_decode_eq_some_iff, true_and]
      exact exists_congr fun cause => and_congr_right fun _ => eq_comm
    · have outside : 4094 < machine.toRaw.pc := by omega
      rw [if_neg Bool.false_ne_true, fetch_of_outside outside,
        Machine.faults_iff_of_outside outside]
      simp only [Option.some.injEq, true_and]
      exact eq_comm

/-- A step ends with a fault exactly when the machine does not wait for a key and the fault is one
of those that plain registers and memory tell. A raw machine that is well formed ends its step with
just these faults: no entry is missing, and no number is out of range. -/
theorem step_fails_iff :
    (∀ (machine : Chip8.Machine) fault, (∃ after, machine.step = .error fault after) ↔
      machine.isWaiting = false ∧ machine.toRaw.Faults fault) ∧
    (∀ raw : Machine, raw.WellFormed → ∀ trouble, (∃ after, step raw = .error trouble after) ↔
      raw.awaitsKey = false ∧ ∃ fault, trouble = .error (.fault fault) ∧ raw.Faults fault) := by
  have faults (machine : Chip8.Machine) (fault : Fault) :
      (∃ after, machine.step = .error fault after) ↔
        machine.isWaiting = false ∧ machine.toRaw.Faults fault := by
    simp only [Machine.step_eq_error_iff, exists_and_left, exists_eq, and_true, fault?_eq_some_iff]
  refine ⟨faults, fun raw wellFormed trouble => ?_⟩
  -- A well-formed machine is a view, and on views a step does what it does on machines. So an entry
  -- that is missing or a number out of range cannot come up.
  obtain ⟨machine, rfl⟩ := Machine.wellFormed_iff.1 wellFormed
  constructor
  · rintro ⟨after, failed⟩
    rw [mirrors_step machine] at failed
    cases stepped : machine.step with
    | ok answer after' =>
      rw [stepped] at failed
      cases failed
    | error fault after' =>
      rw [stepped] at failed
      cases failed
      obtain ⟨notWaiting, due⟩ := (faults machine fault).1 ⟨after', stepped⟩
      exact ⟨notWaiting, fault, rfl, due⟩
  · rintro ⟨notWaiting, fault, rfl, due⟩
    obtain ⟨after, stepped⟩ := (faults machine fault).2 ⟨notWaiting, due⟩
    exact ⟨after.toRaw, by rw [mirrors_step machine, stepped]⟩

/-- A machine that has just been turned on, with the program counter in the font. -/
def Machine.inFont : Machine := { Machine.bare (.cycling []) false with pc := 0 }

theorem step_fails_iff_in_font :
    ∃ after, step .inFont = .error (.error (.fault
      { cause := .undefinedInstruction, pc := some 0, opcode := some 0xF090 })) after := by
  have view (machine : Chip8.Machine) : { machine.toRaw with pc := 0 } =
      (machine.mapProcessor ({ · with pc := 0 })).toRaw := rfl
  have glyph (place : Nat) (inside : place < font.length) :
      blankMemory[place]? = some (number font[place]) := by
    have small : place < 4096 := inside.trans (by decide)
    rw [blankMemory_eq, getElem?_numbers small]
    unfold Memory.blank
    rw [getElem_overwrite _ _ _ _ small, if_pos (Nat.zero_le place), Nat.sub_zero,
      List.getElem?_eq_getElem inside]
    rfl
  have reads : Machine.inFont.Reads 0xF090 :=
    ⟨by decide, _, _, glyph 0 (by decide), glyph 1 (by decide), rfl⟩
  have wellFormed : Machine.inFont.WellFormed := by
    unfold Machine.inFont
    rw [bare_eq, view]
    exact wellFormed_toRaw _
  exact (step_fails_iff.2 .inFont wellFormed _).2 ⟨rfl, _, rfl, .word reads (.undefined (by decide))⟩

end Chip8.Raw
