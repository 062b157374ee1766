import Chip8.CommandLine.Trouble
import Chip8.Proofs.FaultConditions
import Chip8.Proofs.Fields

/-!
# Plain text

A control sequence begins with the escape character, so a text without that character is printed as
it is (`printed_of_isPlain`). Numbers are written in such characters only, and so is what is said
about the faults of a machine.
-/

namespace Chip8

/-- A text without the escape character. -/
def IsPlain (text : String) : Prop := '\x1b' ∉ text.toList

instance (text : String) : Decidable (IsPlain text) := inferInstanceAs (Decidable (¬_))

namespace ControlSequence

/-- Without escape characters there is nothing to strip. -/
lemma strip_eq_self {text : List Char} (plain : '\x1b' ∉ text) : strip text = text := by
  induction text with
  | nil => rw [strip]
  | cons first rest ih =>
    obtain ⟨other, plain⟩ := not_or.1 (List.mem_cons.not.1 plain)
    rw [strip, ih plain]
    rintro text rfl
    exact absurd rfl other

end ControlSequence

lemma printed_of_isPlain {line : String} (plain : IsPlain line) : printed line = line ++ "\n" := by
  unfold printed
  rw [ControlSequence.strip_eq_self plain, String.ofList_toList]

lemma isPlain_append {first second : String} :
    IsPlain (first ++ second) ↔ IsPlain first ∧ IsPlain second := by
  unfold IsPlain
  rw [String.toList_append, List.mem_append, not_or]

lemma isPlain_intercalate {separator : String} (plain : IsPlain separator) {parts : List String}
    (all : ∀ part ∈ parts, IsPlain part) : IsPlain (separator.intercalate parts) := by
  unfold IsPlain
  rw [String.toList_intercalate]
  exact notMem_intercalate plain (List.forall_mem_map.2 all)

/-! ## Numbers -/

namespace Numeral

lemma isPlain_hex (width : Nat) (number : Int) : IsPlain (hex width number) := fun member =>
  absurd (isMark_of_mem_hex member) (by decide)

lemma isPlain_word (number : Int) : IsPlain (word number) :=
  isPlain_append.2 ⟨by decide, isPlain_hex 4 number⟩

end Numeral

lemma isPlain_repr (number : Nat) : IsPlain (toString number) := by
  unfold IsPlain
  rw [Nat.toString_eq_repr, Nat.toList_repr]
  intro member
  exact absurd (Nat.isDigit_of_mem_toDigits (by decide) (by decide) member) (by decide)

/-! ## Faults -/

/-- Whether a cause is described in the words of a host. -/
def Fault.Cause.isForeign : Fault.Cause → Bool
  | .other _ => true
  | _ => false

lemma Fault.Cause.isPlain_description {cause : Fault.Cause} (own : cause.isForeign = false) :
    IsPlain cause.description := by
  cases cause
  case memoryAccess address => exact isPlain_append.2 ⟨by decide, Numeral.isPlain_word address⟩
  case invalidKey key => exact isPlain_append.2 ⟨by decide, Numeral.isPlain_hex 2 key⟩
  case other description => cases own
  all_goals decide

/-- What is said about a fault is plain, unless it comes from a host. -/
lemma Fault.isPlain_message {fault : Fault} (own : fault.cause.isForeign = false) :
    IsPlain fault.message := by
  have text : IsPlain ("error: " ++ fault.cause.description) :=
    isPlain_append.2 ⟨by decide, Cause.isPlain_description own⟩
  have parts : ∀ part ∈ fault.place, IsPlain part := by
    unfold place
    cases fault.pc <;> cases fault.opcode <;>
      simp [isPlain_append, Numeral.isPlain_word] <;> decide
  unfold message
  split
  · exact text
  · have separator : IsPlain ", " := by decide
    have opened := isPlain_append.2 ⟨text, (by decide : IsPlain " (")⟩
    exact isPlain_append.2
      ⟨isPlain_append.2 ⟨opened, isPlain_intercalate separator parts⟩, by decide⟩

/-- The faults of a machine do not come from a host. -/
lemma Machine.isForeign_of_fault? {machine : Machine} {fault : Fault}
    (known : machine.fault? = some fault) : fault.cause.isForeign = false := by
  obtain ⟨-, faults⟩ := Raw.fault?_eq_some_iff.1 known
  cases faults with
  | fetch outside => rfl
  | word reads refuses => cases refuses <;> rfl

/-! ## Images -/

/-- What is said about an image that is too large is plain if its path is. -/
lemma LoadError.isPlain_message_tooLarge {path : String} (plain : IsPlain path) (size : Nat) :
    IsPlain (LoadError.message { failure := .tooLarge size, path := some path }) := by
  have sized : IsPlain (LoadFailure.tooLarge size).reason := by
    simp only [LoadFailure.reason, isPlain_append]
    exact ⟨⟨by decide, isPlain_repr size⟩, by decide⟩
  simp only [message, isPlain_append]
  exact ⟨⟨⟨by decide, plain⟩, by decide⟩, sized⟩

end Chip8
