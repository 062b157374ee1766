import Chip8.Proofs.ActionRuns
import Chip8.Proofs.WordForms

/-!
# Arithmetic and the flag register

The instructions that calculate read their registers first, and then write a value and perhaps a flag.
Since the flag register is a general register, it can be both, and then the order of the two counts
(`Calculation`). What is written satisfies the laws of arithmetic (`Word.Law`): the flag is the part of
a sum that the register cannot hold, or tells that nothing has been borrowed. Where the value and the
flag go to one register, the later one stays there (`Word.SharedLaw`).
-/

namespace Chip8

/-! ## Forms of words -/

namespace Word

/-- The word calculates with registers: it is in family 7, or a defined one in family 8. -/
def IsArithmetic (word : UInt16) : Prop :=
  family word = 0x7 ∨
    family word = 0x8 ∧ (nibble word).val ∈ [0x0, 0x1, 0x2, 0x3, 0x4, 0x5, 0x6, 0x7, 0xE]

instance : DecidablePred IsArithmetic := fun _ => inferInstanceAs (Decidable (_ ∨ _))

/-- The word shifts a register. -/
def IsShift (word : UInt16) : Prop :=
  family word = 0x8 ∧ ((nibble word).val = 0x6 ∨ (nibble word).val = 0xE)

lemma IsShift.isArithmetic {word : UInt16} (shift : IsShift word) : IsArithmetic word := by
  obtain ⟨family, operation⟩ := shift
  refine .inr ⟨family, ?_⟩
  rcases operation with nibble | nibble <;> rw [nibble] <;> decide

lemma IsArithmetic.operations {word : UInt16} (arithmetic : IsArithmetic word) :
    family word = 0x7 ∨ family word = 0x8 ∧
      ((nibble word).val = 0x0 ∨ (nibble word).val = 0x1 ∨ (nibble word).val = 0x2 ∨
        (nibble word).val = 0x3 ∨ (nibble word).val = 0x4 ∨ (nibble word).val = 0x5 ∨
        (nibble word).val = 0x6 ∨ (nibble word).val = 0x7 ∨ (nibble word).val = 0xE) := by
  simpa only [IsArithmetic, List.mem_cons, List.not_mem_nil, or_false] using arithmetic

/-! ## Laws -/

/-- What `a` and `b` in the registers X and Y become, if X is not the flag register: X holds `result`
afterwards, and the flag register, which held `flag`, holds `flag'`. -/
def Law (word : UInt16) (a b flag result flag' : UInt8) : Prop :=
  match family word, (nibble word).val with
  | 0x7, _ => result.toNat = (a.toNat + (byte word).toNat) % 256 ∧ flag' = flag
  | 0x8, 0x0 => result = b ∧ flag' = flag
  | 0x8, 0x1 => result = a ||| b ∧ flag' = flag
  | 0x8, 0x2 => result = a &&& b ∧ flag' = flag
  | 0x8, 0x3 => result = a ^^^ b ∧ flag' = flag
  | 0x8, 0x4 => 256 * flag'.toNat + result.toNat = a.toNat + b.toNat
  | 0x8, 0x5 =>
    (result.toNat : Int) = a.toNat - b.toNat + 256 * (1 - flag'.toNat) ∧ (flag' = 1 ↔ b ≤ a)
  | 0x8, 0x6 => 2 * result.toNat + flag'.toNat = a.toNat ∧ flag'.toNat ≤ 1
  | 0x8, 0x7 =>
    (result.toNat : Int) = b.toNat - a.toNat + 256 * (1 - flag'.toNat) ∧ (flag' = 1 ↔ a ≤ b)
  | 0x8, 0xE => 256 * flag'.toNat + result.toNat = 2 * a.toNat
  | _, _ => False

/-- What the flag register holds afterwards if it is X: the carry, or whether nothing was borrowed, and
for all others the result. -/
def SharedLaw (word : UInt16) (a b result : UInt8) : Prop :=
  match family word, (nibble word).val with
  | 0x7, _ => result.toNat = (a.toNat + (byte word).toNat) % 256
  | 0x8, 0x0 => result = b
  | 0x8, 0x1 => result = a ||| b
  | 0x8, 0x2 => result = a &&& b
  | 0x8, 0x3 => result = a ^^^ b
  | 0x8, 0x4 => result = if 256 ≤ a.toNat + b.toNat then 1 else 0
  | 0x8, 0x5 => result = if b ≤ a then 1 else 0
  | 0x8, 0x6 => result.toNat = a.toNat / 2
  | 0x8, 0x7 => result = if a ≤ b then 1 else 0
  | 0x8, 0xE => result.toNat = 2 * a.toNat % 256
  | _, _ => False

end Word

/-! ## Bytes -/

/-- A flag as the machine stores it. -/
def flagByte (flag : Bool) : UInt8 := if flag then 1 else 0

section
variable (p : Prop) [Decidable p]

lemma flagByte_decide : flagByte p = if p then 1 else 0 := by
  by_cases holds : p <;> simp [flagByte, holds]

lemma flagByte_eq_one_iff : flagByte p = 1 ↔ p := by
  by_cases holds : p <;> simp [flagByte, holds]

lemma toNat_flagByte : p ∧ (flagByte p).toNat = 1 ∨ ¬p ∧ (flagByte p).toNat = 0 := by
  by_cases holds : p <;> simp [flagByte, holds]

end

section
variable (a b : UInt8)

lemma add_law :
    256 * (flagByte (255 < a.toNat + b.toNat)).toNat + (a + b).toNat = a.toNat + b.toNat := by
  have := a.toNat_lt
  have := b.toNat_lt
  rw [UInt8.toNat_add]
  rcases toNat_flagByte (255 < a.toNat + b.toNat) with ⟨carried, flag⟩ | ⟨fits, flag⟩
  · omega
  · omega

lemma sub_law :
    ((a - b).toNat : Int) = a.toNat - b.toNat + 256 * (1 - (flagByte (b ≤ a)).toNat) := by
  have := a.toNat_lt
  have := b.toNat_lt
  have le : b ≤ a ↔ b.toNat ≤ a.toNat := UInt8.le_iff_toNat_le
  rw [UInt8.toNat_sub]
  rcases toNat_flagByte (b ≤ a) with ⟨covered, flag⟩ | ⟨borrowed, flag⟩
  · have := le.1 covered
    omega
  · have := mt le.2 borrowed
    omega

lemma toNat_shiftRight_one : (a >>> 1).toNat = a.toNat / 2 := by
  rw [UInt8.toNat_shiftRight]
  simp [Nat.shiftRight_eq_div_pow]

lemma toNat_shiftLeft_one : (a <<< 1).toNat = 2 * a.toNat % 256 := by
  rw [UInt8.toNat_shiftLeft]
  simp [Nat.shiftLeft_eq, Nat.mul_comm]

lemma shiftRight_law :
    2 * (a >>> 1).toNat + (flagByte (a.toNat % 2 = 1)).toNat = a.toNat ∧
      (flagByte (a.toNat % 2 = 1)).toNat ≤ 1 := by
  rw [toNat_shiftRight_one]
  rcases toNat_flagByte (a.toNat % 2 = 1) with ⟨odd, flag⟩ | ⟨even, flag⟩
  · omega
  · omega

lemma shiftLeft_law :
    256 * (flagByte (128 ≤ a.toNat)).toNat + (a <<< 1).toNat = 2 * a.toNat := by
  have := a.toNat_lt
  rw [toNat_shiftLeft_one]
  rcases toNat_flagByte (128 ≤ a.toNat) with ⟨carried, flag⟩ | ⟨fits, flag⟩
  · omega
  · omega

end

/-! ## Calculations -/

/-- What an instruction writes: a value alone, or a value and a flag, one after the other. -/
inductive Calculation
  | plain (value : UInt8)
  | flagLast (value : UInt8) (flag : Bool)
  | flagFirst (flag : Bool) (value : UInt8)

namespace Calculation

/-- The value for the register. -/
def value : Calculation → UInt8
  | plain value | flagLast value _ | flagFirst _ value => value

/-- The flag, if there is one. -/
def flag? : Calculation → Option UInt8
  | plain _ => none
  | flagLast _ flag | flagFirst flag _ => some (flagByte flag)

/-- What is written last. -/
def last : Calculation → UInt8
  | plain value | flagFirst _ value => value
  | flagLast _ flag => flagByte flag

/-- The registers with what has been calculated for one of them. -/
def write (calculation : Calculation) (x : Register) (processor : Processor) : Processor :=
  match calculation with
  | plain value => processor.setV x value
  | flagLast value flag => (processor.setV x value).setV .flag (flagByte flag)
  | flagFirst flag value => (processor.setV .flag (flagByte flag)).setV x value

end Calculation

namespace Calculation

variable (calculation : Calculation) (processor : Processor) {x z : Register}

lemma getV_write (apart : x ≠ .flag) :
    (calculation.write x processor).getV x = calculation.value := by
  cases calculation with
  | plain value => exact Processor.getV_setV_self ..
  | flagLast value flag =>
    exact (Processor.getV_setV_of_ne apart).trans (Processor.getV_setV_self ..)
  | flagFirst flag value => exact Processor.getV_setV_self ..

lemma getV_flag_write (apart : x ≠ .flag) :
    (calculation.write x processor).getV .flag =
      calculation.flag?.getD (processor.getV .flag) := by
  cases calculation with
  | plain value => exact Processor.getV_setV_of_ne apart.symm
  | flagLast value flag => exact Processor.getV_setV_self ..
  | flagFirst flag value =>
    exact (Processor.getV_setV_of_ne apart.symm).trans (Processor.getV_setV_self ..)

/-- Where value and flag go to one register, the later one stays. -/
lemma getV_write_flag : (calculation.write .flag processor).getV .flag = calculation.last := by
  cases calculation <;> exact Processor.getV_setV_self ..

lemma getV_write_of_ne (other : z ≠ x) (general : z ≠ .flag) :
    (calculation.write x processor).getV z = processor.getV z := by
  cases calculation with
  | plain value => exact Processor.getV_setV_of_ne other
  | flagLast value flag =>
    exact (Processor.getV_setV_of_ne general).trans (Processor.getV_setV_of_ne other)
  | flagFirst flag value =>
    exact (Processor.getV_setV_of_ne other).trans (Processor.getV_setV_of_ne general)

/-- The register gets the same, whatever the others hold. -/
lemma getV_write_congr (other : Processor) :
    (calculation.write x other).getV x = (calculation.write x processor).getV x := by
  by_cases shared : x = .flag
  · rw [shared, getV_write_flag, getV_write_flag]
  · rw [getV_write _ _ shared, getV_write _ _ shared]

/-- And so does the flag register, if there is a flag. -/
lemma getV_flag_write_congr (other : Processor) {flag : UInt8}
    (flagged : calculation.flag? = some flag) :
    (calculation.write x other).getV .flag = (calculation.write x processor).getV .flag := by
  by_cases shared : x = .flag
  · rw [shared, getV_write_flag, getV_write_flag]
  · rw [getV_flag_write _ _ shared, getV_flag_write _ _ shared, flagged]
    rfl

/-- Nothing is written but general registers. -/
lemma write_eq : calculation.write x processor =
    { processor with v := (calculation.write x processor).v } := by
  cases calculation <;> rfl

end Calculation

/-! ## Arithmetic words -/

namespace Word

/-- What a word calculates from the contents of its registers, if it is arithmetic. -/
def calculation (word : UInt16) (a b : UInt8) : Calculation :=
  match family word, (nibble word).val with
  | 0x8, 0x0 => .plain b
  | 0x8, 0x1 => .plain (a ||| b)
  | 0x8, 0x2 => .plain (a &&& b)
  | 0x8, 0x3 => .plain (a ^^^ b)
  | 0x8, 0x4 => .flagLast (a + b) (255 < a.toNat + b.toNat)
  | 0x8, 0x5 => .flagLast (a - b) (b ≤ a)
  | 0x8, 0x6 => .flagFirst (a.toNat % 2 = 1) (a >>> 1)
  | 0x8, 0x7 => .flagLast (b - a) (a ≤ b)
  | 0x8, 0xE => .flagFirst (128 ≤ a.toNat) (a <<< 1)
  | _, _ => .plain (a + byte word)

variable {word twin : UInt16} {a b : UInt8}

/-- What is calculated satisfies the law of the word. -/
lemma law_calculation (arithmetic : IsArithmetic word) (a b flag : UInt8) :
    Law word a b flag (calculation word a b).value ((calculation word a b).flag?.getD flag) := by
  unfold Law calculation
  rcases arithmetic.operations with family | ⟨family, operation⟩
  · rw [family]
    exact ⟨UInt8.toNat_add .., rfl⟩
  · rw [family]
    rcases operation with nibble | nibble | nibble | nibble | nibble | nibble | nibble | nibble |
      nibble <;> rw [nibble]
    · exact ⟨rfl, rfl⟩
    · exact ⟨rfl, rfl⟩
    · exact ⟨rfl, rfl⟩
    · exact ⟨rfl, rfl⟩
    · exact add_law a b
    · exact ⟨sub_law a b, flagByte_eq_one_iff _⟩
    · exact shiftRight_law a
    · exact ⟨sub_law b a, flagByte_eq_one_iff _⟩
    · exact shiftLeft_law a

/-- The later one of what is written satisfies the law for a shared register. -/
lemma sharedLaw_calculation (arithmetic : IsArithmetic word) (a b : UInt8) :
    SharedLaw word a b (calculation word a b).last := by
  unfold SharedLaw calculation
  rcases arithmetic.operations with family | ⟨family, operation⟩
  · rw [family]
    exact UInt8.toNat_add ..
  · rw [family]
    rcases operation with nibble | nibble | nibble | nibble | nibble | nibble | nibble | nibble |
      nibble <;> rw [nibble]
    · rfl
    · rfl
    · rfl
    · rfl
    · exact flagByte_decide _
    · exact flagByte_decide _
    · exact toNat_shiftRight_one a
    · exact flagByte_decide _
    · exact toNat_shiftLeft_one a

/-- Of two shifts of one kind neither looks at the second register. -/
lemma calculation_of_shift (shift : IsShift word) (family' : family twin = 0x8)
    (nibble' : nibble twin = nibble word) (a b b' : UInt8) :
    calculation twin a b' = calculation word a b := by
  obtain ⟨family, operation⟩ := shift
  unfold calculation
  rw [family', nibble', family]
  rcases operation with nibble | nibble <;> rw [nibble] <;> rfl

/-- A shift sets the flag. -/
lemma flag?_of_shift (shift : IsShift word) (a b : UInt8) :
    ∃ flag, (calculation word a b).flag? = some flag := by
  obtain ⟨family, operation⟩ := shift
  unfold calculation
  rw [family]
  rcases operation with nibble | nibble <;> rw [nibble] <;> exact ⟨_, rfl⟩

end Word

namespace Machine

variable {word : UInt16}

/-- The machine after an arithmetic word. -/
def calculated (machine : Machine) (word : UInt16) : Machine :=
  machine.mapProcessor fun processor =>
    ((Word.calculation word (processor.getV (Word.x word)) (processor.getV (Word.y word))).write
      (Word.x word) processor).advance

/-- An arithmetic word writes what it calculates and goes on. -/
lemma execute_of_isArithmetic (arithmetic : Word.IsArithmetic word) (machine : Machine) :
    machine.execute word = .ok () (machine.calculated word) := by
  unfold execute calculated Instruction.decode Word.calculation
  rcases arithmetic.operations with family | ⟨family, operation⟩
  · rw [family]
    rfl
  · rw [family]
    unfold Instruction.decodeArithmetic
    rcases operation with nibble | nibble | nibble | nibble | nibble | nibble | nibble | nibble |
      nibble <;> rw [nibble] <;> rfl

/-- Apart from the program counter only general registers change. -/
lemma calculated_eq (machine : Machine) (word : UInt16) :
    machine.calculated word = { machine with
      processor := { machine.processor with
        v := (machine.calculated word).processor.v
        pc := machine.processor.pc + 2 } } := by
  unfold calculated mapProcessor Processor.advance
  dsimp only
  rw [Calculation.write_eq]

/-- An arithmetic word never faults. It goes on with the next instruction and changes nothing but its
first register and the flag register. These satisfy the law of the word, also if one register is both.
The second register of a shift does not matter, neither which one it is nor what it holds. -/
theorem execute_arithmetic (arithmetic : Word.IsArithmetic word) (machine : Machine) :
    let x := Word.x word
    let a := machine.processor.getV x
    let b := machine.processor.getV (Word.y word)
    ∃ after, machine.execute word = .ok () after ∧
      after = { machine with processor := { machine.processor with
        v := after.processor.v
        pc := machine.processor.pc + 2 } } ∧
      (∀ z, z ≠ x → z ≠ .flag → after.processor.getV z = machine.processor.getV z) ∧
      (x ≠ .flag → Word.Law word a b (machine.processor.getV .flag) (after.processor.getV x)
        (after.processor.getV .flag)) ∧
      (x = .flag → Word.SharedLaw word a b (after.processor.getV .flag)) ∧
      (Word.IsShift word → ∀ (other : Machine) (twin : UInt16), Word.family twin = 0x8 →
        Word.nibble twin = Word.nibble word → Word.x twin = x → other.processor.getV x = a →
          ∃ after', other.execute twin = .ok () after' ∧
            after'.processor.getV x = after.processor.getV x ∧
            after'.processor.getV .flag = after.processor.getV .flag) := by
  intro x a b
  refine ⟨_, execute_of_isArithmetic arithmetic machine, calculated_eq machine word, ?_, ?_, ?_, ?_⟩
  · intro z other general
    exact Calculation.getV_write_of_ne _ _ other general
  · intro apart
    have law := Word.law_calculation arithmetic a b (machine.processor.getV .flag)
    rw [← Calculation.getV_write _ machine.processor apart,
      ← Calculation.getV_flag_write _ _ apart] at law
    exact law
  · intro shared
    have law := Word.sharedLaw_calculation arithmetic a b
    rw [← Calculation.getV_write_flag _ machine.processor] at law
    have left : (machine.calculated word).processor.getV .flag =
        ((Word.calculation word a b).write .flag machine.processor).getV .flag := by
      rw [← shared]
      rfl
    rwa [left]
  · intro shift other twin family nibble same reads
    have shift' : Word.IsShift twin := ⟨family, nibble ▸ shift.2⟩
    refine ⟨_, execute_of_isArithmetic shift'.isArithmetic other, ?_⟩
    obtain ⟨flag, flagged⟩ := Word.flag?_of_shift shift a b
    have left (z : Register) : (other.calculated twin).processor.getV z =
        ((Word.calculation word a b).write x other.processor).getV z := by
      rw [← Word.calculation_of_shift shift family nibble a b
        (other.processor.getV (Word.y twin)), ← reads, ← same]
      rfl
    rw [left, left]
    exact ⟨Calculation.getV_write_congr _ machine.processor other.processor,
      Calculation.getV_flag_write_congr _ machine.processor other.processor flagged⟩

/-- A machine that holds a large number in a register and in the flag register. -/
def laden : Machine :=
  (powerOn .empty (.ofStream fun _ => 0) false).mapProcessor fun processor =>
    (processor.setV .first 200).setV .flag 60

/-- The flag register is added before it takes the carry, and if the sum is for it, only the carry
remains. -/
theorem execute_arithmetic_with_flag :
    (∃ after, laden.execute 0x80F4 = .ok () after ∧
      after.processor.getV .first = 4 ∧ after.processor.getV .flag = 1) ∧
    ∃ after, laden.execute 0x8F04 = .ok () after ∧
      after.processor.getV .first = 200 ∧ after.processor.getV .flag = 1 := by
  have holds : laden.processor.getV .first = 200 ∧ laden.processor.getV .flag = 60 := by decide
  constructor
  · obtain ⟨after, executed, -, -, law, -⟩ :=
      execute_arithmetic (show Word.IsArithmetic 0x80F4 by decide) laden
    have sum : 256 * (after.processor.getV .flag).toNat + (after.processor.getV .first).toNat =
        (laden.processor.getV .first).toNat + (laden.processor.getV .flag).toNat := law (by decide)
    rw [holds.1, holds.2, show (200 : UInt8).toNat + (60 : UInt8).toNat = 260 from rfl] at sum
    have := (after.processor.getV .first).toNat_lt
    refine ⟨after, executed, UInt8.toNat.inj ?_, UInt8.toNat.inj ?_⟩
    · show _ = 4
      omega
    · show _ = 1
      omega
  · obtain ⟨after, executed, -, others, -, law, -⟩ :=
      execute_arithmetic (show Word.IsArithmetic 0x8F04 by decide) laden
    have carry : after.processor.getV .flag =
        if 256 ≤ (laden.processor.getV .flag).toNat + (laden.processor.getV .first).toNat then 1
        else 0 := law rfl
    rw [holds.1, holds.2] at carry
    exact ⟨after, executed, (others .first (by decide) (by decide)).trans holds.1, carry⟩

end Machine

end Chip8
