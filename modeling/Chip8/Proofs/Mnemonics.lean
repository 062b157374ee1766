import Chip8.Proofs.Fields
import Chip8.Proofs.WellFormedness

/-!
# Mnemonics tell what instructions do

A mnemonic is the name of an operation and its operands. Every operand shows of which kind it is, by the
character it begins with and by its length, so an instruction can be read off its mnemonic
(`Instruction.mnemonic_inj`). Words that have one mnemonic therefore do the same. They are the words
that differ in nothing but fields that the mnemonic omits (`Word.essence`), which is never the case for
words that are no instruction.
-/

namespace Chip8

namespace Instruction

/-! ## Names -/

/-- The name of an operation, without the operands that tell apart what has one name. -/
inductive Name
  | cls | ret | jp | call | se | sne | ld | add | or | and | xor | sub | subn | shr | shl | rnd | drw
  | skp | sknp | dw

namespace Name

/-- The letters of a name. -/
def text : Name → String
  | cls => "CLS"
  | ret => "RET"
  | jp => "JP"
  | call => "CALL"
  | se => "SE"
  | sne => "SNE"
  | ld => "LD"
  | add => "ADD"
  | or => "OR"
  | and => "AND"
  | xor => "XOR"
  | sub => "SUB"
  | subn => "SUBN"
  | shr => "SHR"
  | shl => "SHL"
  | rnd => "RND"
  | drw => "DRW"
  | skp => "SKP"
  | sknp => "SKNP"
  | dw => "DW"

lemma text_inj {name name' : Name} (same : name.text = name'.text) : name = name' := by
  unfold text at same
  cases name <;> cases name' <;> first | rfl | simp at same

lemma ne_blank_of_mem_text {name : Name} : ∀ c ∈ name.text.toList, c ≠ ' ' := by
  unfold text
  cases name <;> simp

/-- Only the name of words that are no instruction begins as it does. -/
lemma eq_dw_of_prefix {name : Name} {rest : List Char}
    (begins : ['D', 'W'] <+: name.text.toList ++ rest) : name = dw := by
  unfold text at begins
  cases name <;> first | rfl | simp at begins

end Name

/-! ## Operands -/

/-- What a mnemonic names behind the operation. -/
inductive Operand
  | register (x : Register)
  | literal (byte : UInt8)
  | address (target : Target)
  | raw (word : UInt16)
  | rows (height : Fin 16)
  | index
  /-- The memory that the index register points at. -/
  | block
  | delay
  | sound
  | key
  | glyph
  | decimal

namespace Operand

open Numeral

/-- An operand in a mnemonic. -/
def text : Operand → String
  | .register x => registerName x
  | .literal byte => byteText byte
  | .address target => targetText target
  | .raw word => Numeral.word word.toNat
  | .rows height => Numeral.decimal height.val
  | .index => "I"
  | .block => "[I]"
  | .delay => "DT"
  | .sound => "ST"
  | .key => "K"
  | .glyph => "F"
  | .decimal => "B"

/-- The number behind a dollar sign, in two, three or four places. -/
def ofPlaces (places number : Nat) : Operand :=
  match places with
  | 2 => .literal (.ofNat number)
  | 3 => .address (Word.target (.ofNat number))
  | _ => .raw (.ofNat number)

/-- The operand that a text stands for. -/
def ofText : List Char → Operand
  | 'V' :: digits => .register (Word.nibble (.ofNat (value 16 digits)))
  | '$' :: digits => ofPlaces digits.length (value 16 digits)
  | ['I'] => .index
  | ['[', 'I', ']'] => .block
  | ['D', 'T'] => .delay
  | ['S', 'T'] => .sound
  | ['K'] => .key
  | ['F'] => .glyph
  | ['B'] => .decimal
  | digits => .rows (Word.nibble (.ofNat (value 10 digits)))

lemma toList_register (x : Register) : (registerName x).toList = 'V' :: (hex 1 x.val).toList := by
  rw [registerName, String.toList_append]
  rfl

lemma toList_places (width : Nat) (number : Int) :
    ("$" ++ hex width number).toList = '$' :: (hex width number).toList := by
  rw [String.toList_append]
  rfl

lemma ofText_places {width number : Nat} (positive : 0 < width) (fits : number < 16 ^ width) :
    ofText ("$" ++ hex width number).toList = ofPlaces width number := by
  rw [toList_places, ofText, String.length_toList, length_hex positive fits, value_hex]

lemma nibble_ofNat (digit : Fin 16) : Word.nibble (.ofNat digit.val) = digit := by
  apply Fin.ext
  simp only [Word.nibble, UInt16.toNat_ofNat']
  omega

lemma target_ofNat (target : Target) : Word.target (.ofNat target.val) = target := by
  apply Fin.ext
  simp only [Word.target, UInt16.toNat_ofNat']
  omega

/-- Every operand can be read off its text. -/
lemma ofText_text (operand : Operand) : ofText operand.text.toList = operand := by
  cases operand
  case register x => rw [text, toList_register, ofText, value_hex, nibble_ofNat]
  case literal byte =>
    exact (ofText_places (by decide) byte.toNat_lt).trans (congrArg literal byte.ofNat_toNat)
  case address target =>
    exact (ofText_places (by decide) target.isLt).trans (congrArg address (target_ofNat target))
  case raw word =>
    exact (ofText_places (by decide) word.toNat_lt).trans (congrArg raw word.ofNat_toNat)
  case rows height => fin_cases height <;> rfl
  all_goals rfl

lemma text_inj {operand operand' : Operand} (same : operand.text = operand'.text) :
    operand = operand' := by
  rw [← ofText_text operand, same, ofText_text]

lemma comma_notMem_text (operand : Operand) : ',' ∉ operand.text.toList := by
  have digits (width : Nat) (number : Int) : ',' ∉ (hex width number).toList := fun member =>
    absurd (isMark_of_mem_hex member) (by decide)
  have dollar (width : Nat) (number : Int) : ',' ∉ ("$" ++ hex width number).toList := by
    rw [toList_places, List.mem_cons, not_or]
    exact ⟨by decide, digits width number⟩
  cases operand
  case register x =>
    rw [text, toList_register, List.mem_cons, not_or]
    exact ⟨by decide, digits 1 x.val⟩
  case literal byte => exact dollar 2 byte.toNat
  case address target => exact dollar 3 target.val
  case raw word => exact dollar 4 word.toNat
  case rows height => fin_cases height <;> decide
  all_goals
    unfold text
    simp

end Operand

/-! ## Forms -/

/-- The name and the operands in the mnemonic of an instruction. -/
def form : Instruction → Name × List Operand
  | clear => (.cls, [])
  | ret => (.ret, [])
  | jump target => (.jp, [.address target])
  | call target => (.call, [.address target])
  | skipIfByte x byte => (.se, [.register x, .literal byte])
  | skipUnlessByte x byte => (.sne, [.register x, .literal byte])
  | skipIfEqual x y => (.se, [.register x, .register y])
  | skipUnlessEqual x y => (.sne, [.register x, .register y])
  | loadByte x byte => (.ld, [.register x, .literal byte])
  | addByte x byte => (.add, [.register x, .literal byte])
  | copy x y => (.ld, [.register x, .register y])
  | or x y => (.or, [.register x, .register y])
  | and x y => (.and, [.register x, .register y])
  | xor x y => (.xor, [.register x, .register y])
  | add x y => (.add, [.register x, .register y])
  | subtract x y => (.sub, [.register x, .register y])
  | subtractFrom x y => (.subn, [.register x, .register y])
  | shiftRight x => (.shr, [.register x])
  | shiftLeft x => (.shl, [.register x])
  | loadIndex target => (.ld, [.index, .address target])
  | jumpOffset target => (.jp, [.register .first, .address target])
  | random x mask => (.rnd, [.register x, .literal mask])
  | draw x y height => (.drw, [.register x, .register y, .rows height])
  | skipIfDown x => (.skp, [.register x])
  | skipIfUp x => (.sknp, [.register x])
  | readDelay x => (.ld, [.register x, .delay])
  | awaitKey x => (.ld, [.register x, .key])
  | setDelay x => (.ld, [.delay, .register x])
  | setSound x => (.ld, [.sound, .register x])
  | addIndex x => (.add, [.index, .register x])
  | loadGlyph x => (.ld, [.glyph, .register x])
  | storeDecimal x => (.ld, [.decimal, .register x])
  | storeRegisters x => (.ld, [.block, .register x])
  | loadRegisters x => (.ld, [.register x, .block])
  | undefined word => (.dw, [.raw word])

/-- The instruction of a form. Where a name has several, the kinds of the operands decide. -/
def ofForm? : Name × List Operand → Option Instruction
  | (.cls, []) => clear
  | (.ret, []) => ret
  | (.jp, [.address target]) => jump target
  | (.jp, [.register _, .address target]) => jumpOffset target
  | (.call, [.address target]) => call target
  | (.se, [.register x, .literal byte]) => skipIfByte x byte
  | (.se, [.register x, .register y]) => skipIfEqual x y
  | (.sne, [.register x, .literal byte]) => skipUnlessByte x byte
  | (.sne, [.register x, .register y]) => skipUnlessEqual x y
  | (.ld, [.register x, .literal byte]) => loadByte x byte
  | (.ld, [.register x, .register y]) => copy x y
  | (.ld, [.index, .address target]) => loadIndex target
  | (.ld, [.register x, .delay]) => readDelay x
  | (.ld, [.register x, .key]) => awaitKey x
  | (.ld, [.register x, .block]) => loadRegisters x
  | (.ld, [.delay, .register x]) => setDelay x
  | (.ld, [.sound, .register x]) => setSound x
  | (.ld, [.glyph, .register x]) => loadGlyph x
  | (.ld, [.decimal, .register x]) => storeDecimal x
  | (.ld, [.block, .register x]) => storeRegisters x
  | (.add, [.register x, .literal byte]) => addByte x byte
  | (.add, [.register x, .register y]) => add x y
  | (.add, [.index, .register x]) => addIndex x
  | (.or, [.register x, .register y]) => or x y
  | (.and, [.register x, .register y]) => and x y
  | (.xor, [.register x, .register y]) => xor x y
  | (.sub, [.register x, .register y]) => subtract x y
  | (.subn, [.register x, .register y]) => subtractFrom x y
  | (.shr, [.register x]) => shiftRight x
  | (.shl, [.register x]) => shiftLeft x
  | (.rnd, [.register x, .literal mask]) => random x mask
  | (.drw, [.register x, .register y, .rows height]) => draw x y height
  | (.skp, [.register x]) => skipIfDown x
  | (.sknp, [.register x]) => skipIfUp x
  | (.dw, [.raw word]) => undefined word
  | _ => none

lemma ofForm?_form (instruction : Instruction) : ofForm? instruction.form = instruction := by
  cases instruction <;> rfl

/-- A name, and behind it the operands, if there are any. -/
def spelling : Name × List Operand → String
  | (name, []) => name.text
  | (name, operands) => withOperands name.text (operands.map Operand.text)

lemma mnemonic_eq (instruction : Instruction) : instruction.mnemonic = spelling instruction.form := by
  cases instruction <;> rfl

/-- What stands behind a name. -/
def behind : List Operand → List Char
  | [] => []
  | operands => ' ' :: [',', ' '].intercalate (operands.map fun operand => operand.text.toList)

variable {name name' : Name} {operands operands' : List Operand}

lemma toList_spelling : (spelling (name, operands)).toList = name.text.toList ++ behind operands := by
  cases operands with
  | nil => rw [spelling, behind, List.append_nil]
  | cons operand operands =>
    rw [spelling, behind, withOperands, String.toList_append, String.toList_append,
      String.toList_intercalate, List.map_map, List.append_assoc]
    · rfl
    all_goals simp

lemma endsField_behind : EndsField (· ≠ ' ') (behind operands) := by
  cases operands with
  | nil => exact endsField_nil
  | cons operand operands => exact endsField_cons.2 (not_not.2 rfl)

lemma behind_inj (same : behind operands = behind operands') : operands = operands' := by
  have separated (operands : List Operand) :
      ∀ field ∈ operands.map fun operand => operand.text.toList, ',' ∉ field :=
    List.forall_mem_map.2 fun operand _ => operand.comma_notMem_text
  cases operands with
  | nil =>
    cases operands' with
    | nil => rfl
    | cons operand' operands' => cases same
  | cons operand operands =>
    cases operands' with
    | nil => cases same
    | cons operand' operands' =>
      have fields := intercalate_inj (separated _) (separated _) (by simp) (by simp)
        (List.cons.inj same).2
      refine List.map_injective_iff.2 (fun _ _ texts => ?_) fields
      exact Operand.text_inj (String.toList_injective texts)

lemma spelling_inj (same : spelling (name, operands) = spelling (name', operands')) :
    name = name' ∧ operands = operands' := by
  have texts := congrArg String.toList same
  rw [toList_spelling, toList_spelling] at texts
  obtain ⟨names, others⟩ := append_inj_of_field Name.ne_blank_of_mem_text
    Name.ne_blank_of_mem_text endsField_behind endsField_behind texts
  exact ⟨Name.text_inj (String.toList_injective names), behind_inj others⟩

/-- No two instructions have one mnemonic. -/
theorem mnemonic_inj {instruction instruction' : Instruction} :
    instruction.mnemonic = instruction'.mnemonic ↔ instruction = instruction' := by
  constructor
  · intro same
    rw [mnemonic_eq, mnemonic_eq] at same
    obtain ⟨names, operands⟩ := spelling_inj same
    have forms : instruction.form = instruction'.form := Prod.ext names operands
    exact Option.some.inj (by rw [← ofForm?_form, forms, ofForm?_form])
  · rintro rfl
    rfl

lemma eq_undefined_of_prefix {instruction : Instruction}
    (begins : ['D', 'W'] <+: instruction.mnemonic.toList) : ∃ word, instruction = undefined word := by
  rw [mnemonic_eq, toList_spelling] at begins
  have named := Name.eq_dw_of_prefix begins
  cases instruction
  case undefined word => exact ⟨word, rfl⟩
  all_goals cases named

/-! ## Codes -/

/-- The number of the word of an instruction, zeros standing where the instruction tells nothing. -/
def code : Instruction → Nat
  | clear => 0x00E0
  | ret => 0x00EE
  | jump target => 0x1000 + target
  | call target => 0x2000 + target
  | skipIfByte x byte => 0x3000 + 256 * x + byte.toNat
  | skipUnlessByte x byte => 0x4000 + 256 * x + byte.toNat
  | skipIfEqual x y => 0x5000 + 256 * x + 16 * y
  | loadByte x byte => 0x6000 + 256 * x + byte.toNat
  | addByte x byte => 0x7000 + 256 * x + byte.toNat
  | copy x y => 0x8000 + 256 * x + 16 * y
  | or x y => 0x8001 + 256 * x + 16 * y
  | and x y => 0x8002 + 256 * x + 16 * y
  | xor x y => 0x8003 + 256 * x + 16 * y
  | add x y => 0x8004 + 256 * x + 16 * y
  | subtract x y => 0x8005 + 256 * x + 16 * y
  | shiftRight x => 0x8006 + 256 * x
  | subtractFrom x y => 0x8007 + 256 * x + 16 * y
  | shiftLeft x => 0x800E + 256 * x
  | skipUnlessEqual x y => 0x9000 + 256 * x + 16 * y
  | loadIndex target => 0xA000 + target
  | jumpOffset target => 0xB000 + target
  | random x mask => 0xC000 + 256 * x + mask.toNat
  | draw x y height => 0xD000 + 256 * x + 16 * y + height
  | skipIfDown x => 0xE09E + 256 * x
  | skipIfUp x => 0xE0A1 + 256 * x
  | readDelay x => 0xF007 + 256 * x
  | awaitKey x => 0xF00A + 256 * x
  | setDelay x => 0xF015 + 256 * x
  | setSound x => 0xF018 + 256 * x
  | addIndex x => 0xF01E + 256 * x
  | loadGlyph x => 0xF029 + 256 * x
  | storeDecimal x => 0xF033 + 256 * x
  | storeRegisters x => 0xF055 + 256 * x
  | loadRegisters x => 0xF065 + 256 * x
  | undefined word => word.toNat

end Instruction

namespace Word

open Instruction

/-- What a word holds in a field that its mnemonic omits, at the weight of the field. -/
def omitted (word : UInt16) : Nat :=
  if family word = 0x0 ∧ byte word ∈ [0xE0, 0xEE] then 256 * x word
  else if family word = 0x5 ∨ family word = 0x9 then nibble word
  else if family word = 0x8 ∧ (nibble word).val ∈ [0x6, 0xE] then 16 * y word
  else 0

/-- The word with zeros in the field that its mnemonic omits. -/
def essence (word : UInt16) : UInt16 := .ofNat (word.toNat - omitted word)

variable {word other : UInt16}

lemma toNat_essence (word : UInt16) : (essence word).toNat = word.toNat - omitted word := by
  have := word.toNat_lt
  rw [essence, UInt16.toNat_ofNat']
  omega

lemma toNat_byte (word : UInt16) : (byte word).toNat = word.toNat % 256 := UInt16.toNat_toUInt8 word

lemma code_decode (word : UInt16) : (decode word).code = (essence word).toNat := by
  have bound := family_lt word
  have high : word.toNat / 4096 = family word := rfl
  have low := toNat_byte word
  rw [toNat_essence]
  unfold decode omitted
  -- Family by family, as the decoder goes.
  generalize family word = family at bound high
  interval_cases family
  case «0» =>
    simp only [decodePlain]
    split <;> simp_all [code, x] <;> omega
  case «8» =>
    simp only [decodeArithmetic]
    split <;> simp_all [code, x, y, nibble] <;> omega
  case «14» =>
    simp only [decodeKey]
    split <;> simp_all [code, x] <;> omega
  case «15» =>
    simp only [decodeTransfer]
    split <;> simp_all [code, x] <;> omega
  all_goals
    simp [code, x, y, nibble, target, low]
    omega

lemma essence_of_plain (zero : family word = 0x0) (bytes : byte word ∈ [0xE0, 0xEE]) :
    essence word = (byte word).toUInt16 := by
  have low := toNat_byte word
  have high : word.toNat / 4096 = family word := rfl
  have omits : omitted word = 256 * (word.toNat / 256 % 16) := if_pos ⟨zero, bytes⟩
  apply UInt16.toNat_inj.1
  rw [toNat_essence, UInt8.toNat_toUInt16]
  omega

/-- Without the lowest field, the comparisons of two registers keep all others. -/
lemma fields_of_pair (pair : family word = 0x5 ∨ family word = 0x9) :
    family (essence word) = family word ∧ x (essence word) = x word ∧ y (essence word) = y word := by
  have omits : omitted word = word.toNat % 16 := by
    rw [omitted, if_neg (by omega), if_pos pair]
    rfl
  simp only [family, x, y, Fin.mk.injEq, toNat_essence, omits]
  omega

/-- Without the second register, the shifts keep all other fields. -/
lemma fields_of_shift (eight : family word = 0x8) (kinds : (nibble word).val ∈ [0x6, 0xE]) :
    family (essence word) = family word ∧ x (essence word) = x word ∧
      nibble (essence word) = nibble word := by
  have omits : omitted word = 16 * (word.toNat / 16 % 16) := by
    rw [omitted, if_neg (by omega), if_neg (by omega), if_pos ⟨eight, kinds⟩]
    rfl
  simp only [family, x, nibble, Fin.mk.injEq, toNat_essence, omits]
  omega

/-- What is omitted is no part of the fields that an instruction is read from. -/
lemma decode_essence (word : UInt16) : decode (essence word) = decode word := by
  by_cases plain : family word = 0x0 ∧ byte word ∈ [0xE0, 0xEE]
  · obtain ⟨zero, bytes⟩ := plain
    unfold decode
    rw [essence_of_plain zero bytes, zero]
    rcases List.mem_pair.1 bytes with clears | returns
    · simp only [decodePlain, clears]
      rfl
    · simp only [decodePlain, returns]
      rfl
  by_cases pair : family word = 0x5 ∨ family word = 0x9
  · obtain ⟨families, firsts, seconds⟩ := fields_of_pair pair
    unfold decode
    rw [families, firsts, seconds]
    rcases pair with five | nine
    · simp only [five]
    · simp only [nine]
  by_cases shift : family word = 0x8 ∧ (nibble word).val ∈ [0x6, 0xE]
  · obtain ⟨eight, kinds⟩ := shift
    obtain ⟨families, firsts, selectors⟩ := fields_of_shift eight kinds
    unfold decode
    rw [families, eight]
    simp only [decodeArithmetic, firsts, selectors]
    rcases List.mem_pair.1 kinds with right | left
    · simp only [right]
    · simp only [left]
  · have whole : omitted word = 0 := by rw [omitted, if_neg plain, if_neg pair, if_neg shift]
    rw [essence, whole, Nat.sub_zero, UInt16.ofNat_toNat]

lemma decode_inj : decode word = decode other ↔ essence word = essence other := by
  constructor
  · intro same
    rw [← UInt16.toNat_inj, ← code_decode, ← code_decode, same]
  · intro same
    rw [← decode_essence word, same, decode_essence]

end Word

/-! ## Executions -/

/-- A fault apart from its instruction word. -/
def Fault.withoutOpcode (fault : Fault) : Fault := { fault with opcode := none }

/-- A trouble apart from the instruction word of its fault, if it is one. -/
def Raw.Trouble.withoutOpcode : Trouble → Trouble
  | .error (.fault fault) => .error (.fault fault.withoutOpcode)
  | trouble => trouble

lemma Machine.execute_withoutOpcode {word other : UInt16}
    (same : Instruction.decode word = Instruction.decode other) (machine : Machine) :
    (execute word).adaptExcept Fault.withoutOpcode machine =
      (execute other).adaptExcept Fault.withoutOpcode machine := by
  rw [run_adaptExcept, run_adaptExcept, execute, execute, run_adaptExcept, run_adaptExcept, same]
  cases perform (Instruction.decode other) machine with
  | ok _ after => rfl
  | error cause after => cases cause <;> rfl

lemma Raw.execute_withoutOpcode {v w : Int}
    (same : Instruction.decode (.ofInt v) = Instruction.decode (.ofInt w)) {raw : Machine}
    (wellFormed : raw.WellFormed) :
    (execute v).adaptExcept Trouble.withoutOpcode raw =
      (execute w).adaptExcept Trouble.withoutOpcode raw := by
  obtain ⟨machine, rfl⟩ := Machine.wellFormed_iff.1 wellFormed
  have typed := Chip8.Machine.execute_withoutOpcode same machine
  rw [run_adaptExcept, run_adaptExcept] at typed ⊢
  rw [mirrors_execute v machine, mirrors_execute w machine]
  -- Both complete in one machine or fail in one machine, with faults that differ in the word at most.
  cases first : Chip8.Machine.execute (.ofInt v) machine <;>
    cases second : Chip8.Machine.execute (.ofInt w) machine <;>
    simp_all [Trouble.withoutOpcode]

namespace Instruction

/-- An instruction can be executed from its mnemonic alone. Integers whose words have one mnemonic do
the same to every machine, and to every well-formed machine of plain numbers: they leave the same state,
or fail with the same fault in the same place, apart from the word that the fault names. They are the
integers whose words differ at most in a field that the mnemonic omits. A mnemonic that begins like
those of words that are no instruction belongs to a single word. -/
theorem mnemonic_determines_execution (v w : Int) :
    ((decode (.ofInt v)).mnemonic = (decode (.ofInt w)).mnemonic →
      (∀ machine : Machine,
        (Machine.execute (.ofInt v)).adaptExcept Fault.withoutOpcode machine =
          (Machine.execute (.ofInt w)).adaptExcept Fault.withoutOpcode machine) ∧
      ∀ raw : Raw.Machine, raw.WellFormed →
        (Raw.execute v).adaptExcept Raw.Trouble.withoutOpcode raw =
          (Raw.execute w).adaptExcept Raw.Trouble.withoutOpcode raw) ∧
    ((decode (.ofInt v)).mnemonic = (decode (.ofInt w)).mnemonic ↔
      Word.essence (.ofInt v) = Word.essence (.ofInt w)) ∧
    ("DW".toList <+: (decode (.ofInt v)).mnemonic.toList →
      (decode (.ofInt v)).mnemonic = (decode (.ofInt w)).mnemonic →
      UInt16.ofInt v = UInt16.ofInt w) := by
  refine ⟨fun same => ?_, mnemonic_inj.trans Word.decode_inj, fun begins same => ?_⟩
  · have decoded := mnemonic_inj.1 same
    exact ⟨Machine.execute_withoutOpcode decoded, fun raw => Raw.execute_withoutOpcode decoded⟩
  · obtain ⟨word, undefined⟩ := eq_undefined_of_prefix begins
    have own := (Word.decode_eq_undefined_iff.1 undefined).1
    have other := (Word.decode_eq_undefined_iff.1 ((mnemonic_inj.1 same).symm.trans undefined)).1
    exact own.symm.trans other

/-- Two words that return: with nothing to return to they fail alike, each naming itself. And a word
that is no instruction, which is the low half of two numbers. -/
theorem mnemonic_determines_execution_of_returns :
    (decode (.ofInt 0x00EE)).mnemonic = "RET" ∧ (decode (.ofInt 0x30FEE)).mnemonic = "RET" ∧
    (∃ machine : Machine,
      Machine.execute (.ofInt 0x00EE) machine =
        .error ⟨.stackUnderflow, some 0x200, some 0x00EE⟩ machine ∧
      Machine.execute (.ofInt 0x30FEE) machine =
        .error ⟨.stackUnderflow, some 0x200, some 0x0FEE⟩ machine ∧
      (Machine.execute (.ofInt 0x00EE)).adaptExcept Fault.withoutOpcode machine =
        (Machine.execute (.ofInt 0x30FEE)).adaptExcept Fault.withoutOpcode machine ∧
      (Raw.execute 0x00EE).adaptExcept Raw.Trouble.withoutOpcode machine.toRaw =
        (Raw.execute 0x30FEE).adaptExcept Raw.Trouble.withoutOpcode machine.toRaw) ∧
    (decode (.ofInt (-1))).mnemonic = "DW $FFFF" ∧ UInt16.ofInt (-1) = UInt16.ofInt 0xFFFF := by
  have returns := (mnemonic_determines_execution 0x00EE 0x30FEE).1 (by decide +kernel)
  have words := (mnemonic_determines_execution (-1) 0xFFFF).2.2 (by decide +kernel) (by decide +kernel)
  exact ⟨by decide +kernel, by decide +kernel,
    ⟨.powerOn .empty (.cycling []) false, rfl, rfl, returns.1 _, returns.2 _ (Raw.wellFormed_toRaw _)⟩,
    by decide +kernel, words⟩

end Instruction

end Chip8
