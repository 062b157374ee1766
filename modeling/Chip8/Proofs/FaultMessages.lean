import Chip8.Proofs.Fields
import Chip8.Proofs.PlainText

/-!
# Faults can be told from their messages

The message of a fault says what was wrong and, in parentheses, as much of the place as is known. The
descriptions differ in their seventh character, numbers end where something else begins, and the parts
of the place contain no comma. So nothing is lost: two faults with one message are one fault
(`Fault.message_inj`).
-/

namespace Chip8.Fault

open Numeral

/-! ## Descriptions -/

/-- The seventh character of a description, which no other kind of cause has there. -/
def Cause.mark : Cause → Char
  | .undefinedInstruction => 'n'
  | .stackOverflow => 'o'
  | .stackUnderflow => 'u'
  | .memoryAccess _ => ' '
  | .invalidKey _ => 'd'
  | .other _ => '?'

variable {cause cause' : Cause} {rest rest' : String}

lemma Cause.getElem?_description (own : cause.isForeign = false) (rest : String) :
    (cause.description ++ rest).toList[6]? = some cause.mark := by
  unfold description mark
  cases cause
  case other description => cases own
  all_goals simp

/-- A description can be told from what follows it. -/
lemma Cause.description_append_inj (own : cause.isForeign = false) (own' : cause'.isForeign = false)
    (ends : EndsNumber rest) (ends' : EndsNumber rest')
    (same : cause.description ++ rest = cause'.description ++ rest') :
    cause = cause' ∧ rest = rest' := by
  have marks : cause.mark = cause'.mark := by
    have places := congrArg (fun text : String => text.toList[6]?) same
    rw [getElem?_description own, getElem?_description own'] at places
    exact Option.some.inj places
  -- Causes of two kinds differ in their marks, so both are of one kind.
  cases cause <;> cases cause' <;> try (simp [mark] at marks; done)
  case memoryAccess.memoryAccess address address' =>
    unfold description word at same
    simp only [String.append_assoc, String.append_right_inj] at same
    obtain ⟨rfl, rest_eq⟩ := hex_append_inj ends ends' same
    exact ⟨rfl, rest_eq⟩
  case invalidKey.invalidKey key key' =>
    unfold description at same
    simp only [String.append_assoc, String.append_right_inj] at same
    obtain ⟨rfl, rest_eq⟩ := hex_append_inj ends ends' same
    exact ⟨rfl, rest_eq⟩
  case other.other => cases own
  all_goals exact ⟨rfl, (String.append_right_inj _).1 same⟩

/-! ## Places -/

variable {fault fault' : Fault}

/-- The place in parentheses, if any of it is known. -/
def ending (fault : Fault) : String :=
  match fault.place with
  | [] => ""
  | parts => " (" ++ ", ".intercalate parts ++ ")"

lemma message_eq (fault : Fault) :
    fault.message = "error: " ++ (fault.cause.description ++ fault.ending) := by
  unfold message ending
  cases fault.place with
  | nil => simp only [String.append_empty]
  | cons part parts => simp only [String.append_assoc]

lemma endsNumber_ending (fault : Fault) : EndsNumber fault.ending := by
  have blank : ¬IsMark ' ' := by decide
  unfold ending
  split
  · exact endsNumber_empty
  · exact .of_head? (by simp) blank

lemma comma_notMem_place (fault : Fault) : ∀ part ∈ fault.place, ',' ∉ part.toList := by
  have word (number : Int) : ',' ∉ (word number).toList := by
    rw [Numeral.word, String.toList_append, List.mem_append, not_or]
    exact ⟨by decide, fun member => absurd (isMark_of_mem_hex member) (by decide)⟩
  unfold place
  cases fault.pc <;> cases fault.opcode <;> simp [word]

lemma place_inj (same : fault.place = fault'.place) :
    fault.pc = fault'.pc ∧ fault.opcode = fault'.opcode := by
  have kinds (pc opcode : Int) : "pc=" ++ word pc ≠ "opcode=" ++ word opcode := by
    intro texts
    simpa using congrArg (fun text : String => text.toList.head?) texts
  obtain ⟨cause, pc, opcode⟩ := fault
  obtain ⟨cause', pc', opcode'⟩ := fault'
  unfold place at same
  cases pc <;> cases pc' <;> cases opcode <;> cases opcode' <;>
    simp_all [word_inj, (kinds _ _).symm]

lemma ending_inj (same : fault.ending = fault'.ending) :
    fault.pc = fault'.pc ∧ fault.opcode = fault'.opcode := by
  refine place_inj ?_
  have separated := fault.comma_notMem_place
  have separated' := fault'.comma_notMem_place
  unfold ending at same
  -- A place that is not known leaves no parentheses.
  cases known : fault.place with
  | nil =>
    cases known' : fault'.place with
    | nil => rfl
    | cons part' parts' => simp [known, known'] at same
  | cons part parts =>
    cases known' : fault'.place with
    | nil => simp [known, known'] at same
    | cons part' parts' =>
      rw [known, known', String.append_left_inj, String.append_right_inj] at same
      have texts := congrArg String.toList same
      rw [String.toList_intercalate, String.toList_intercalate] at texts
      rw [known] at separated
      rw [known'] at separated'
      have fields := intercalate_inj (List.forall_mem_map.2 separated)
        (List.forall_mem_map.2 separated') (by simp) (by simp) texts
      exact List.map_injective_iff.2 (fun _ _ => String.toList_injective) fields

/-! ## Messages -/

/-- No fault of a machine is lost in its message. Whatever integers the address or key, the program
counter and the instruction word are, and whether or not the last two are known: two faults have the
same message just if they are of the same kind, with the same address or key, at the same place as far
as it is known. -/
theorem message_inj (own : fault.cause.isForeign = false) (own' : fault'.cause.isForeign = false) :
    fault.message = fault'.message ↔ fault = fault' := by
  constructor
  · intro same
    rw [message_eq, message_eq, String.append_right_inj] at same
    obtain ⟨causes, endings⟩ := Cause.description_append_inj own own' fault.endsNumber_ending
      fault'.endsNumber_ending same
    obtain ⟨pcs, opcodes⟩ := ending_inj endings
    cases fault
    cases fault'
    simp_all
  · rintro rfl
    rfl

/-- An access below zero and the same one at another place: one number of one place is known of each. -/
theorem message_inj_below_zero :
    message ⟨.memoryAccess (-1), some 0, none⟩ =
      "error: memory access out of bounds at $-001 (pc=$0000)" ∧
    message ⟨.memoryAccess (-1), some 0, none⟩ ≠ message ⟨.memoryAccess (-1), none, some 0⟩ :=
  ⟨by decide +kernel, fun same => absurd ((message_inj rfl rfl).1 same) (by decide)⟩

end Chip8.Fault
