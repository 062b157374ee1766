import Chip8.Text.Digit
import Chip8.Text.Numeral
import Mathlib

/-!
# Fields of a text

A text made of fields can be taken apart again if no field contains the character that stands behind
it (`append_inj_of_field`, `intercalate_inj`). Numbers are such fields. They are written in digits and
at most one minus sign, and reading them gives the number back (`Numeral.read_signed`), so that no two
numbers of one base and width are written alike.
-/

namespace Chip8

/-! ## Where a field ends -/

section
variable {p : Char → Prop} {rest rest' : List Char}

/-- A text ends a field of certain characters: it is empty or begins with another one. -/
def EndsField (p : Char → Prop) (rest : List Char) : Prop := ∀ c ∈ rest.head?, ¬p c

lemma endsField_nil : EndsField p [] := by
  unfold EndsField
  simp

lemma endsField_cons {c : Char} : EndsField p (c :: rest) ↔ ¬p c := by
  unfold EndsField
  simp

lemma append_inj_of_field {field field' : List Char} (made : ∀ c ∈ field, p c)
    (made' : ∀ c ∈ field', p c) (ends : EndsField p rest) (ends' : EndsField p rest')
    (same : field ++ rest = field' ++ rest') : field = field' ∧ rest = rest' := by
  induction field generalizing field' with
  | nil =>
    cases field' with
    | nil => exact ⟨rfl, same⟩
    | cons c field' =>
      rw [show rest = c :: (field' ++ rest') from same, endsField_cons] at ends
      exact absurd (made' c (by simp)) ends
  | cons c field ih =>
    cases field' with
    | nil =>
      rw [← show c :: (field ++ rest) = rest' from same, endsField_cons] at ends'
      exact absurd (made c (by simp)) ends'
    | cons c' field' =>
      obtain ⟨first, others⟩ := List.cons.inj same
      have made := (List.forall_mem_cons.1 made).2
      have made' := (List.forall_mem_cons.1 made').2
      obtain ⟨fields, rests⟩ := ih made made' others
      exact ⟨by rw [first, fields], rests⟩

end

/-! ## Lists of fields -/

section
variable {c : Char} {separator : List Char} {fields fields' : List (List Char)}

/-- The first field, and the others each behind a separator. -/
lemma intercalate_cons_eq (separator field : List Char) (fields : List (List Char)) :
    separator.intercalate (field :: fields) = field ++ fields.flatMap (separator ++ ·) := by
  induction fields generalizing field with
  | nil => simp [List.intercalate_singleton]
  | cons second fields ih => rw [List.intercalate_cons_cons, ih]; simp

lemma notMem_intercalate {separator : List Char} (notIn : c ∉ separator)
    (without : ∀ field ∈ fields, c ∉ field) : c ∉ separator.intercalate fields := by
  cases fields with
  | nil => simp
  | cons field fields =>
    rw [List.forall_mem_cons] at without
    rw [intercalate_cons_eq]
    simp only [List.mem_append, List.mem_flatMap, not_or, not_exists, not_and]
    exact ⟨without.1, fun field member => ⟨notIn, without.2 field member⟩⟩

lemma endsField_flatMap : EndsField (· ≠ c) (fields.flatMap (c :: separator ++ ·)) := by
  cases fields with
  | nil => exact endsField_nil
  | cons field fields => exact endsField_cons.2 (not_not.2 rfl)

/-- One field behind which others may follow, and the first of these begins with the character `c`. -/
lemma field_inj {field field' : List Char} (without : c ∉ field) (without' : c ∉ field')
    (same : field ++ fields.flatMap (c :: separator ++ ·) =
      field' ++ fields'.flatMap (c :: separator ++ ·)) :
    field = field' ∧
      fields.flatMap (c :: separator ++ ·) = fields'.flatMap (c :: separator ++ ·) :=
  append_inj_of_field (fun _ member => ne_of_mem_of_not_mem member without)
    (fun _ member => ne_of_mem_of_not_mem member without') endsField_flatMap endsField_flatMap same

lemma flatMap_inj (without : ∀ field ∈ fields, c ∉ field) (without' : ∀ field ∈ fields', c ∉ field)
    (same : fields.flatMap (c :: separator ++ ·) = fields'.flatMap (c :: separator ++ ·)) :
    fields = fields' := by
  induction fields generalizing fields' with
  | nil =>
    cases fields' with
    | nil => rfl
    | cons field' fields' => simp at same
  | cons field fields ih =>
    cases fields' with
    | nil => simp at same
    | cons field' fields' =>
      obtain ⟨first, others⟩ := List.forall_mem_cons.1 without
      obtain ⟨first', others'⟩ := List.forall_mem_cons.1 without'
      rw [List.flatMap_cons, List.flatMap_cons, List.append_assoc, List.append_assoc,
        List.append_right_inj] at same
      obtain ⟨fields_eq, rest_eq⟩ := field_inj first first' same
      rw [fields_eq, ih others others' rest_eq]

/-- Fields can be told from their text, if none contains the first character of what stands between
them. -/
lemma intercalate_inj (without : ∀ field ∈ fields, c ∉ field)
    (without' : ∀ field ∈ fields', c ∉ field) (nonempty : fields ≠ []) (nonempty' : fields' ≠ [])
    (same : (c :: separator).intercalate fields = (c :: separator).intercalate fields') :
    fields = fields' := by
  obtain ⟨field, fields, rfl⟩ := List.exists_cons_of_ne_nil nonempty
  obtain ⟨field', fields', rfl⟩ := List.exists_cons_of_ne_nil nonempty'
  obtain ⟨first, others⟩ := List.forall_mem_cons.1 without
  obtain ⟨first', others'⟩ := List.forall_mem_cons.1 without'
  rw [intercalate_cons_eq, intercalate_cons_eq] at same
  obtain ⟨field_eq, rest_eq⟩ := field_inj first first' same
  rw [field_eq, flatMap_inj others others' rest_eq]

end

/-! ## Numbers -/

namespace Numeral

/-- The number that digits stand for, the most significant first. -/
def value (base : Nat) (text : List Char) : Nat :=
  text.foldl (fun number c => base * number + (Digit.valueIn? base c).getD 0) 0

/-- The number that digits with an optional minus sign stand for. -/
def read (base : Nat) : List Char → Int
  | '-' :: text => -value base text
  | text => value base text

/-- The digits that numbers are written with. -/
def hexDigits : List Char := "0123456789ABCDEF".toList

/-- A character that numbers are written with. -/
def IsMark (c : Char) : Prop := c = '-' ∨ c ∈ hexDigits

instance : DecidablePred IsMark := fun _ => inferInstanceAs (Decidable (_ ∨ _))

/-! ### Digits -/

variable {base : Nat}

lemma digit_mem_hexDigits (digit : Fin 16) : (Nat.digitChar digit).toUpper ∈ hexDigits := by
  revert digit
  decide

lemma valueIn?_hex (digit : Fin 16) :
    Digit.valueIn? 16 (Nat.digitChar digit).toUpper = some digit.val := by
  revert digit
  decide

/-- In a smaller base fewer characters are digits. -/
lemma valueIn?_eq_filter (atMostHex : base ≤ 16) (c : Char) :
    Digit.valueIn? base c = (Digit.valueIn? 16 c).filter (· < base) := by
  have smaller (number : Nat) :
      decide (number < base) = (decide (number < 16) && decide (number < base)) := by
    rw [← Bool.decide_and, decide_eq_decide]
    omega
  unfold Digit.valueIn?
  rw [Option.filter_filter]
  simp only [← smaller]

lemma valueIn?_digit (atMostHex : base ≤ 16) {digit : Nat} (small : digit < base) :
    Digit.valueIn? base (Nat.digitChar digit).toUpper = some digit := by
  rw [valueIn?_eq_filter atMostHex, valueIn?_hex ⟨digit, by omega⟩]
  exact Option.filter_eq_some_iff.2 ⟨rfl, decide_eq_true small⟩

lemma digits_of_lt {number : Nat} (small : number < base) :
    digits base number = [(Nat.digitChar number).toUpper] := by
  rw [digits, Nat.toDigits_of_lt_base small, List.map_singleton]

lemma digits_of_le (atLeastTwo : 1 < base) {number : Nat} (large : base ≤ number) :
    digits base number =
      digits base (number / base) ++ [(Nat.digitChar (number % base)).toUpper] := by
  rw [digits, Nat.toDigits_of_base_le atLeastTwo large, List.map_append, List.map_singleton]
  rfl

/-- Digit by digit, the last one apart. -/
lemma digits_induction {motive : Nat → Prop} (atLeastTwo : 1 < base)
    (single : ∀ number, number < base → motive number)
    (several : ∀ number, base ≤ number → motive (number / base) → motive number) (number : Nat) :
    motive number := by
  induction number using Nat.strong_induction_on with
  | h number ih =>
    by_cases small : number < base
    · exact single number small
    · refine several number (by omega) (ih _ (Nat.div_lt_self (by omega) atLeastTwo))

lemma mem_hexDigits_of_mem_digits (atLeastTwo : 1 < base) (atMostHex : base ≤ 16) {number : Nat}
    {c : Char} (member : c ∈ digits base number) : c ∈ hexDigits := by
  induction number using digits_induction atLeastTwo with
  | single number small =>
    rw [digits_of_lt small] at member
    rw [List.mem_singleton.1 member]
    exact digit_mem_hexDigits ⟨number, by omega⟩
  | several number large ih =>
    rw [digits_of_le atLeastTwo large] at member
    rcases List.mem_append.1 member with earlier | last
    · exact ih earlier
    · have small : number % base < base := Nat.mod_lt _ (by omega)
      rw [List.mem_singleton.1 last]
      exact digit_mem_hexDigits ⟨number % base, by omega⟩

lemma value_concat (text : List Char) (c : Char) :
    value base (text ++ [c]) = base * value base text + (Digit.valueIn? base c).getD 0 := by
  rw [value, List.foldl_append]
  rfl

/-- Reading digits gives back the number that they were written for. -/
lemma value_digits (atLeastTwo : 1 < base) (atMostHex : base ≤ 16) (number : Nat) :
    value base (digits base number) = number := by
  induction number using digits_induction atLeastTwo with
  | single number small =>
    rw [digits_of_lt small, ← List.nil_append [_], value_concat, valueIn?_digit atMostHex small]
    simp [value]
  | several number large ih =>
    have last : number % base < base := Nat.mod_lt _ (by omega)
    rw [digits_of_le atLeastTwo large, value_concat, ih, valueIn?_digit atMostHex last]
    exact Nat.div_add_mod number base

lemma value_zeros (positive : 0 < base) (atMostHex : base ≤ 16) (count : Nat) (text : List Char) :
    value base (List.replicate count '0' ++ text) = value base text := by
  have zero : Digit.valueIn? base '0' = some 0 := valueIn?_digit atMostHex positive
  induction count with
  | zero => rfl
  | succ count ih =>
    rw [List.replicate_succ, List.cons_append, value, List.foldl_cons, zero]
    simpa [value] using ih

/-! ### Signed numbers -/

/-- The digits of a number behind the zeros that fill its width. -/
def padded (base width number : Nat) : List Char :=
  List.replicate (width - (digits base number).length) '0' ++ digits base number

lemma signed_of_nonneg {number : Int} (nonneg : 0 ≤ number) (base width : Nat) :
    signed base width number = padded base width number.natAbs := by
  unfold signed padded
  rw [if_neg (by omega)]
  simp

lemma signed_of_neg {number : Int} (neg : number < 0) (base width : Nat) :
    signed base width number = '-' :: padded base (width - 1) number.natAbs := by
  unfold signed padded
  rw [if_pos neg]
  simp [Nat.sub_sub]

lemma mem_hexDigits_of_mem_padded (atLeastTwo : 1 < base) (atMostHex : base ≤ 16)
    {width number : Nat} {c : Char} (member : c ∈ padded base width number) : c ∈ hexDigits := by
  rcases List.mem_append.1 member with zero | digit
  · rw [(List.mem_replicate.1 zero).2]
    decide
  · exact mem_hexDigits_of_mem_digits atLeastTwo atMostHex digit

/-- Numbers are written with digits and minus signs. -/
lemma isMark_of_mem_signed (atLeastTwo : 1 < base) (atMostHex : base ≤ 16) {width : Nat}
    {number : Int} {c : Char} (member : c ∈ signed base width number) : IsMark c := by
  by_cases neg : number < 0
  · rw [signed_of_neg neg] at member
    rcases List.mem_cons.1 member with minus | digit
    · exact .inl minus
    · exact .inr (mem_hexDigits_of_mem_padded atLeastTwo atMostHex digit)
  · rw [signed_of_nonneg (by omega)] at member
    exact .inr (mem_hexDigits_of_mem_padded atLeastTwo atMostHex member)

lemma value_padded (atLeastTwo : 1 < base) (atMostHex : base ≤ 16) (width number : Nat) :
    value base (padded base width number) = number := by
  rw [padded, value_zeros (by omega) atMostHex, value_digits atLeastTwo atMostHex]

lemma read_of_notMem {text : List Char} (unsigned : '-' ∉ text) :
    read base text = value base text := by
  unfold read
  split
  next rest => exact absurd List.mem_cons_self unsigned
  next => rfl

/-- Reading a number that was written gives the number back. -/
theorem read_signed (atLeastTwo : 1 < base) (atMostHex : base ≤ 16) (width : Nat) (number : Int) :
    read base (signed base width number) = number := by
  by_cases neg : number < 0
  · rw [signed_of_neg neg, read, value_padded atLeastTwo atMostHex]
    omega
  · have unsigned : '-' ∉ padded base width number.natAbs := fun member =>
      absurd (mem_hexDigits_of_mem_padded atLeastTwo atMostHex member) (by decide)
    rw [signed_of_nonneg (by omega), read_of_notMem unsigned, value_padded atLeastTwo atMostHex]
    omega

/-- No two numbers of one base and width are written alike. -/
lemma signed_inj (atLeastTwo : 1 < base) (atMostHex : base ≤ 16) {width : Nat} {number number' : Int} :
    signed base width number = signed base width number' ↔ number = number' := by
  constructor
  · intro same
    rw [← read_signed atLeastTwo atMostHex width number, same, read_signed atLeastTwo atMostHex]
  · rintro rfl
    rfl

/-- A number that has room in its width fills it. -/
lemma length_signed {width number : Nat} (positive : 0 < width) (fits : number < base ^ width) :
    (signed base width number).length = width := by
  have short : (digits base number).length ≤ width := by
    rw [digits, List.length_map]
    exact Nat.toDigits_length base number width positive fits
  rw [signed_of_nonneg (Int.natCast_nonneg number), padded, Int.natAbs_natCast, List.length_append,
    List.length_replicate]
  omega

/-! ### Numbers as fields -/

/-- A text that may stand behind a number: it is empty or begins with a character that numbers are not
written with. -/
def EndsNumber (rest : String) : Prop := EndsField IsMark rest.toList

variable {width : Nat} {number number' : Int} {rest rest' : String}

lemma signed_append_inj (atLeastTwo : 1 < base) (atMostHex : base ≤ 16) (ends : EndsNumber rest)
    (ends' : EndsNumber rest')
    (same : String.ofList (signed base width number) ++ rest =
      String.ofList (signed base width number') ++ rest') : number = number' ∧ rest = rest' := by
  have marks (number : Int) : ∀ c ∈ signed base width number, IsMark c :=
    fun c => isMark_of_mem_signed atLeastTwo atMostHex
  have texts := congrArg String.toList same
  rw [String.toList_append, String.toList_append, String.toList_ofList, String.toList_ofList] at texts
  obtain ⟨written, others⟩ := append_inj_of_field (marks _) (marks _) ends ends' texts
  exact ⟨(signed_inj atLeastTwo atMostHex).1 written, String.toList_injective others⟩

lemma hex_append_inj (ends : EndsNumber rest) (ends' : EndsNumber rest')
    (same : hex width number ++ rest = hex width number' ++ rest') :
    number = number' ∧ rest = rest' :=
  signed_append_inj (by decide) (by decide) ends ends' same

lemma endsNumber_empty : EndsNumber "" := endsField_nil

lemma EndsNumber.of_head? {c : Char} (head : rest.toList.head? = some c) (other : ¬IsMark c) :
    EndsNumber rest := by
  unfold EndsNumber EndsField
  rw [head]
  simpa using other

lemma isMark_of_mem_hex {c : Char} (member : c ∈ (hex width number).toList) : IsMark c := by
  rw [hex, String.toList_ofList] at member
  exact isMark_of_mem_signed (by decide) (by decide) member

lemma isMark_of_mem_decimal {c : Char} (member : c ∈ (decimal number).toList) : IsMark c := by
  rw [decimal, String.toList_ofList] at member
  exact isMark_of_mem_signed (by decide) (by decide) member

lemma hex_inj : hex width number = hex width number' ↔ number = number' :=
  String.ofList_inj.trans (signed_inj (by decide) (by decide))

lemma decimal_inj : decimal number = decimal number' ↔ number = number' :=
  String.ofList_inj.trans (signed_inj (by decide) (by decide))

lemma value_hex (width number : Nat) : value 16 (hex width number).toList = number := by
  rw [hex, String.toList_ofList, signed_of_nonneg (Int.natCast_nonneg number),
    value_padded (by decide) (by decide), Int.natAbs_natCast]

lemma length_hex {width number : Nat} (positive : 0 < width) (fits : number < 16 ^ width) :
    (hex width number).length = width := by
  rw [hex, String.length_ofList, length_signed positive fits]

lemma word_inj : word number = word number' ↔ number = number' :=
  (String.append_right_inj "$").trans hex_inj

end Numeral

end Chip8
