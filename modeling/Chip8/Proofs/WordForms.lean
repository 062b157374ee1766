import Chip8.Instruction.Decode
import Mathlib

/-!
# Forms of instruction words

The words that are instructions at all, and the few kinds of words whose instructions can fault,
told by their fields alone. The lemmas say what each kind decodes to.
-/

namespace Chip8.Word

/-! ## Kinds -/

/-- The word is an instruction. -/
def IsDefined (word : UInt16) : Prop :=
  (family word = 0x0 → byte word ∈ [0xE0, 0xEE]) ∧
  (family word = 0x8 → (nibble word).val ∈ [0x0, 0x1, 0x2, 0x3, 0x4, 0x5, 0x6, 0x7, 0xE]) ∧
  (family word = 0xE → byte word ∈ [0x9E, 0xA1]) ∧
  (family word = 0xF → byte word ∈ [0x07, 0x0A, 0x15, 0x18, 0x1E, 0x29, 0x33, 0x55, 0x65])

instance : DecidablePred IsDefined := fun _ => inferInstanceAs (Decidable (_ ∧ _))

/-- The word returns. -/
def IsReturn (word : UInt16) : Prop := family word = 0x0 ∧ byte word = 0xEE

/-- The word calls. -/
def IsCall (word : UInt16) : Prop := family word = 0x2

/-- The word skips on a key. -/
def IsKeySkip (word : UInt16) : Prop := family word = 0xE ∧ byte word ∈ [0x9E, 0xA1]

/-- The word waits for a key, which goes into this register. -/
def IsKeyWait (word : UInt16) (register : Register) : Prop :=
  family word = 0xF ∧ byte word = 0x0A ∧ x word = register

/-- The word reads or writes a block of this size from the index register on. -/
def HasBlock (word : UInt16) (size : Nat) : Prop :=
  family word = 0xD ∧ size = nibble word ∨
    family word = 0xF ∧ byte word = 0x33 ∧ size = 3 ∨
    family word = 0xF ∧ byte word ∈ [0x55, 0x65] ∧ size = x word + 1

lemma family_lt (word : UInt16) : family word < 16 := by
  have := word.toNat_lt
  unfold family
  omega

/-! ## Decoding -/

open Instruction

/-- Only words that are no instruction are kept as they are. -/
lemma decode_eq_undefined_iff {word other : UInt16} :
    decode word = undefined other ↔ other = word ∧ ¬IsDefined word := by
  have bound := family_lt word
  have flip : word = other ↔ other = word := eq_comm
  unfold decode IsDefined
  -- Family by family, as the decoder goes. In most families every word is an instruction.
  generalize family word = family at bound
  interval_cases family
  case «0» =>
    simp only [decodePlain]
    split <;> simp_all
  case «8» =>
    simp only [decodeArithmetic]
    split <;> simp_all
  case «14» =>
    simp only [decodeKey]
    split <;> simp_all
  case «15» =>
    simp only [decodeTransfer]
    split <;> simp_all
  all_goals simp

/-- Only words that wait for a key decode to the instruction that does. -/
lemma decode_eq_awaitKey_iff {word : UInt16} {register : Register} :
    decode word = awaitKey register ↔ IsKeyWait word register := by
  have bound := family_lt word
  unfold decode IsKeyWait
  generalize family word = family at bound
  interval_cases family
  case «0» =>
    simp only [decodePlain]
    split <;> simp
  case «8» =>
    simp only [decodeArithmetic]
    split <;> simp
  case «14» =>
    simp only [decodeKey]
    split <;> simp
  case «15» =>
    simp only [decodeTransfer]
    split <;> simp_all
  all_goals simp

end Chip8.Word
