import Chip8.Proofs.Fields
import Chip8.Text.Blank
import Chip8.Text.Integer
import Mathlib

/-!
# Which texts are integers

An integer is written as blanks, a sign, a mark of the base, digits with single underscores between
them, and blanks again (`Integer.Denotes`). Reading accepts just these texts and gives the number that
they denote (`Integer.denotes_of_read`, `Integer.read_of_denotes`), but for decimal numbers of too many
digits. It never has a choice: no character that digits are written with is a sign, an underscore, the
letter of a mark or a blank (`Digit.StandsFor.plain`).

How the digits are written makes no difference. The number is still the same without underscores,
without zeros in front and with all letters in one case (`Integer.value_bare`).
-/

namespace Chip8

/-- What is dropped from the front of a text ends where it does. -/
lemma dropWhile_append_of_endsField {p : Char → Bool} {front rest : List Char}
    (all : ∀ c ∈ front, p c) (ends : EndsField (p ·) rest) :
    (front ++ rest).dropWhile p = rest := by
  rw [List.dropWhile_append_of_pos all]
  cases rest with
  | nil => rfl
  | cons c rest => exact List.dropWhile_cons_of_neg (endsField_cons.1 ends)

lemma Blank.isBlank_of_isPadding {c : Char} (padding : isPadding c) : isBlank c := by
  rw [isBlank, padding, Bool.true_or]

/-! ## Digits -/

namespace Digit

variable {base digit : Nat} {c : Char}

/-- A character is a decimal digit of some script: it lies as far behind the zero as its value says. -/
def IsDecimal (c : Char) (digit : Nat) : Prop := digit < 10 ∧ ∃ start ∈ zeros, c.toNat = start + digit

/-- A character is a letter that stands for a digit from ten on, in either case. -/
def IsLetter (c : Char) (digit : Nat) : Prop :=
  ∃ place < 6, digit = 10 + place ∧ (c.toNat = 'a'.toNat + place ∨ c.toNat = 'A'.toNat + place)

/-- A character stands for a digit of a base. -/
def StandsFor (base : Nat) (c : Char) (digit : Nat) : Prop :=
  digit < base ∧ (IsDecimal c digit ∨ IsLetter c digit)

/-- The scripts have ten digits each, and share none. -/
lemma zeros_apart : ∀ start ∈ zeros, ∀ start' ∈ zeros,
    start = start' ∨ start + 10 ≤ start' ∨ start' + 10 ≤ start := by
  decide +kernel

/-- In ASCII there is one script with digits. -/
lemma zero_of_ascii : ∀ start ∈ zeros, start = 0x30 ∨ 0x660 ≤ start := by
  decide +kernel

lemma value?_eq_some_iff : value? c = some digit ↔ IsDecimal c digit := by
  unfold value? IsDecimal
  rw [Option.map_eq_some_iff]
  constructor
  · rintro ⟨start, found, rfl⟩
    have near := List.find?_some found
    simp only [Bool.and_eq_true, decide_eq_true_eq] at near
    exact ⟨by omega, start, List.mem_of_find?_eq_some found, by omega⟩
  · rintro ⟨small, start, member, place⟩
    have present : (zeros.find? fun start => start ≤ c.toNat && c.toNat < start + 10).isSome := by
      rw [List.find?_isSome]
      refine ⟨start, member, ?_⟩
      simp only [Bool.and_eq_true, decide_eq_true_eq]
      omega
    obtain ⟨start', found⟩ := Option.isSome_iff_exists.1 present
    have near := List.find?_some found
    simp only [Bool.and_eq_true, decide_eq_true_eq] at near
    have same := zeros_apart start member start' (List.mem_of_find?_eq_some found)
    exact ⟨start', found, by omega⟩

lemma IsLetter.value?_eq_none (letter : IsLetter c digit) : value? c = none := by
  obtain ⟨place, small, -, code⟩ := letter
  have lower : 'a'.toNat = 97 := rfl
  have upper : 'A'.toNat = 65 := rfl
  rw [Option.eq_none_iff_forall_ne_some]
  intro other known
  obtain ⟨small', start, member, place'⟩ := value?_eq_some_iff.1 known
  rcases zero_of_ascii start member with rfl | wide <;> omega

lemma valueIn?_eq_some_iff : valueIn? base c = some digit ↔ StandsFor base c digit := by
  have order (d c : Char) : d ≤ c ↔ d.toNat ≤ c.toNat := Iff.rfl
  have letters : 'a'.toNat = 97 ∧ 'f'.toNat = 102 ∧ 'A'.toNat = 65 ∧ 'F'.toNat = 70 :=
    ⟨rfl, rfl, rfl, rfl⟩
  unfold valueIn? StandsFor
  rw [Option.filter_eq_some_iff, decide_eq_true_eq, and_comm]
  refine and_congr_right fun small => ?_
  cases known : value? c with
  | some value =>
    have notLetter : ¬IsLetter c digit := fun letter => by
      rw [letter.value?_eq_none] at known
      cases known
    rw [Option.some_or, or_iff_left notLetter, ← value?_eq_some_iff, known]
  | none =>
    have notDecimal : ¬IsDecimal c digit := fun decimal => by
      rw [value?_eq_some_iff.2 decimal] at known
      cases known
    rw [Option.none_or, or_iff_right notDecimal]
    unfold IsLetter
    simp only [order]
    constructor
    · split_ifs with lower upper
      · rintro ⟨⟩
        exact ⟨c.toNat - 97, by omega, by omega, by omega⟩
      · rintro ⟨⟩
        exact ⟨c.toNat - 65, by omega, by omega, by omega⟩
      · rintro ⟨⟩
    · rintro ⟨place, small, rfl, lower | upper⟩
      · rw [if_pos (by omega), Option.some_inj]
        omega
      · rw [if_neg (by omega), if_pos (by omega), Option.some_inj]
        omega

/-- What is true of the decimal digits of all scripts and of the letters is true of all digits. -/
lemma StandsFor.forall_digits {property : Char → Prop} (stands : StandsFor base c digit)
    (decimals : ∀ start ∈ zeros, ∀ digit < 10, property (Char.ofNat (start + digit)))
    (letters : ∀ start ∈ ['a'.toNat, 'A'.toNat], ∀ place < 6,
      property (Char.ofNat (start + place))) : property c := by
  rcases stands.2 with ⟨small, start, member, place⟩ | ⟨place, small, -, lower | upper⟩
  · rw [← Char.ofNat_toNat c, place]
    exact decimals start member digit small
  · rw [← Char.ofNat_toNat c, lower]
    exact letters _ (by simp) place small
  · rw [← Char.ofNat_toNat c, upper]
    exact letters _ (by simp) place small

lemma toLower_eq_self (notCapital : ¬(65 ≤ c.toNat ∧ c.toNat ≤ 90)) : c.toLower = c := by
  unfold Char.toLower
  split
  next capital => exact absurd capital notCapital
  next => rfl

/-- The case of letters does not matter. -/
lemma StandsFor.toLower (stands : StandsFor base c digit) : StandsFor base c.toLower digit := by
  have codes : 'a'.toNat = 97 ∧ 'A'.toNat = 65 := ⟨rfl, rfl⟩
  obtain ⟨valid, ⟨small, start, member, place⟩ | ⟨place, small, value, lower | upper⟩⟩ :=
    id stands
  · have notCapital := zero_of_ascii start member
    rwa [toLower_eq_self (by omega)]
  · rwa [toLower_eq_self (by omega)]
  · refine ⟨valid, .inr ⟨place, small, value, .inl ?_⟩⟩
    rw [← Char.ofNat_toNat c, upper]
    interval_cases place <;> rfl

/-- Characters that stand for something else than a digit, and blanks. -/
def IsPlain (c : Char) : Prop := c ∉ ['+', '-', '_', 'x', 'X', '$'] ∧ Blank.isBlank c = false

instance : DecidablePred IsPlain := fun _ => inferInstanceAs (Decidable (_ ∧ _))

lemma StandsFor.plain (stands : StandsFor base c digit) : IsPlain c :=
  stands.forall_digits (by decide +kernel) (by decide +kernel)

lemma StandsFor.ne_underscore (stands : StandsFor base c digit) : c ≠ '_' := fun same =>
  stands.plain.1 (by simp [same])

lemma IsPlain.not_isPadding (plain : IsPlain c) : ¬Blank.isPadding c := fun padding =>
  Bool.false_ne_true (plain.2.symm.trans (Blank.isBlank_of_isPadding padding))

lemma IsDecimal.standsFor (decimal : IsDecimal c digit) : StandsFor 10 c digit :=
  ⟨decimal.1, .inl decimal⟩

end Digit

/-! ## How integers are written -/

namespace Integer

variable {base digit : Nat} {c : Char} {text digits tail mark : List Char} {values : List Nat}

/-- Digits with at most single underscores between them, and their values. -/
inductive Spells (base : Nat) : List Char → List Nat → Prop
  | single {c : Char} {digit : Nat} (stands : Digit.StandsFor base c digit) : Spells base [c] [digit]
  | next {c : Char} {digit : Nat} {rest : List Char} {values : List Nat}
      (stands : Digit.StandsFor base c digit) (others : Spells base rest values) :
      Spells base (c :: rest) (digit :: values)
  | separated {c : Char} {digit : Nat} {rest : List Char} {values : List Nat}
      (stands : Digit.StandsFor base c digit) (others : Spells base rest values) :
      Spells base (c :: '_' :: rest) (digit :: values)

/-- A sign, or none, and whether it makes the number negative. -/
inductive IsSign : List Char → Bool → Prop
  | none : IsSign [] false
  | plus : IsSign ['+'] false
  | minus : IsSign ['-'] true

/-- A mark of the base, or none. Base sixteen has one: a zero of any script, an `x` in either case and
perhaps an underscore. -/
inductive IsBaseMark (base : Nat) : List Char → Prop
  | none : IsBaseMark base []
  | hex {c x : Char} {separator : List Char} (isHex : base = 16) (isZero : Digit.IsDecimal c 0)
      (isX : x = 'x' ∨ x = 'X') (single : separator = [] ∨ separator = ['_']) :
      IsBaseMark base (c :: x :: separator)

/-- What may stand in front of the digits of an integer: blanks, a sign and a mark of the base. -/
def Leads (isBlank : Char → Bool) (base : Nat) (lead : List Char) (negative : Bool) : Prop :=
  ∃ blanks sign mark, (∀ c ∈ blanks, isBlank c) ∧ IsSign sign negative ∧ IsBaseMark base mark ∧
    lead = blanks ++ sign ++ mark

/-- The number with a sign whose digits, most significant first, have certain values. -/
def signed (negative : Bool) (base : Nat) (values : List Nat) : Int :=
  (if negative then -1 else 1) * Nat.ofDigits base values.reverse

/-- A text is an integer in a base, if certain characters count as blanks. -/
def Denotes (isBlank : Char → Bool) (base : Nat) (text : List Char) (number : Int) : Prop :=
  ∃ lead negative digits values blanks, Leads isBlank base lead negative ∧ Spells base digits values ∧
    (∀ c ∈ blanks, isBlank c) ∧ text = lead ++ digits ++ blanks ∧ number = signed negative base values

/-- How many decimal digits of any script a text has. -/
def digitCount (text : List Char) : Nat := text.countP fun c => (Digit.value? c).isSome

/-! ### Digits with underscores -/

/-- What may stand behind a digit: nothing more, or digits, perhaps with an underscore in front. -/
def Follows (base : Nat) (digits : List Char) (values : List Nat) : Prop :=
  digits = [] ∧ values = [] ∨ Spells base digits values ∨
    ∃ rest, digits = '_' :: rest ∧ Spells base rest values

lemma Spells.cons (stands : Digit.StandsFor base c digit) (follows : Follows base digits values) :
    Spells base (c :: digits) (digit :: values) := by
  rcases follows with ⟨rfl, rfl⟩ | others | ⟨rest, rfl, others⟩
  · exact .single stands
  · exact .next stands others
  · exact .separated stands others

/-- The first character is a digit, and what stands behind it follows it. -/
lemma Spells.uncons (spells : Spells base digits values) :
    ∃ c digit rest others, digits = c :: rest ∧ values = digit :: others ∧
      Digit.StandsFor base c digit ∧ Follows base rest others := by
  cases spells with
  | single stands => exact ⟨_, _, _, _, rfl, rfl, stands, .inl ⟨rfl, rfl⟩⟩
  | next stands others => exact ⟨_, _, _, _, rfl, rfl, stands, .inr (.inl others)⟩
  | separated stands others => exact ⟨_, _, _, _, rfl, rfl, stands, .inr (.inr ⟨_, rfl, others⟩)⟩

lemma Spells.forall_mem (spells : Spells base digits values) :
    ∀ c ∈ digits, c = '_' ∨ ∃ digit, Digit.StandsFor base c digit := by
  induction spells with
  | single stands => simpa using .inr ⟨_, stands⟩
  | next stands others ih => simpa using ⟨.inr ⟨_, stands⟩, ih⟩
  | separated stands others ih => simpa using ⟨.inr ⟨_, stands⟩, ih⟩

/-- The last character is a digit. -/
lemma Spells.plain_of_getLast? (spells : Spells base digits values) :
    ∀ c ∈ digits.getLast?, Digit.IsPlain c := by
  induction spells with
  | single stands => simpa using stands.plain
  | next stands others ih =>
    obtain ⟨c, digit, rest, values, rfl, -⟩ := others.uncons
    rwa [List.getLast?_cons_cons]
  | separated stands others ih =>
    obtain ⟨c, digit, rest, values, rfl, -⟩ := others.uncons
    rwa [List.getLast?_cons_cons, List.getLast?_cons_cons]

/-- No letter of a mark of the base is among digits. -/
lemma Spells.no_mark (spells : Spells base digits values) :
    ∀ x ∈ digits, ¬(x = 'x' ∨ x = 'X') := by
  rintro x member isX
  rcases spells.forall_mem x member with rfl | ⟨digit, stands⟩
  · exact absurd isX (by decide)
  · exact absurd stands.plain (by rcases isX with rfl | rfl <;> decide)

/-- A text ends digits if it begins with something else. -/
abbrev EndsDigits (base : Nat) (tail : List Char) : Prop :=
  EndsField (fun c => c = '_' ∨ ∃ digit, Digit.StandsFor base c digit) tail

lemma readDigits_cons (stands : Digit.StandsFor base c digit) (afterMark : Bool) (text : List Char) :
    readDigits base afterMark (c :: text) =
      (readDigits base false text).map fun (values, tail) => (digit :: values, tail) := by
  rw [readDigits, if_neg stands.ne_underscore, Digit.valueIn?_eq_some_iff.2 stands]

/-- All digits are read, and nothing behind them. -/
lemma readDigits_append (spells : Spells base digits values) (ends : EndsDigits base tail) :
    readDigits base true (digits ++ tail) = some (values, tail) := by
  induction spells with
  | single stands =>
    have stops : readDigits base false tail = some ([], tail) := by
      cases tail with
      | nil => rfl
      | cons c rest =>
        obtain ⟨other, noDigit⟩ := not_or.1 (endsField_cons.1 ends)
        have unknown : Digit.valueIn? base c = none := by
          rw [Option.eq_none_iff_forall_ne_some]
          exact fun digit known => noDigit ⟨digit, Digit.valueIn?_eq_some_iff.1 known⟩
        rw [readDigits, if_neg other, unknown]
        rfl
    rw [List.singleton_append, readDigits_cons stands, stops]
    rfl
  | @next c digit rest values stands others ih =>
    -- Digits come next, for which it does not matter that an underscore might come, too.
    obtain ⟨c', digit', rest', values', rfl, rfl, stands', -⟩ := others.uncons
    rw [List.cons_append, readDigits_cons stands, List.cons_append, readDigits_cons stands',
      ← readDigits_cons stands' true, ← List.cons_append, ih]
    rfl
  | @separated c digit rest values stands others ih =>
    rw [List.cons_append, List.cons_append, readDigits_cons stands, readDigits, if_pos rfl, ih]
    rfl

/-- What is read are digits. -/
lemma spells_of_readDigits {afterMark : Bool}
    (found : readDigits base afterMark text = some (values, tail)) :
    ∃ digits, text = digits ++ tail ∧
      if afterMark then Spells base digits values else Follows base digits values := by
  -- By induction on the text. Behind a digit all that follows is read, behind an underscore digits.
  induction text generalizing afterMark values with
  | nil =>
    cases afterMark with
    | true => cases found
    | false =>
      cases found
      exact ⟨[], rfl, .inl ⟨rfl, rfl⟩⟩
  | cons c rest ih =>
    by_cases underscore : c = '_'
    · cases afterMark with
      | true =>
        rw [readDigits, if_pos underscore, if_pos rfl] at found
        cases found
      | false =>
        rw [readDigits, if_pos underscore, if_neg (by simp)] at found
        obtain ⟨digits, rfl, spells⟩ := ih found
        exact ⟨c :: digits, rfl, .inr (.inr ⟨digits, by rw [underscore], spells⟩)⟩
    · cases known : Digit.valueIn? base c with
      | none =>
        rw [readDigits, if_neg underscore, known] at found
        cases afterMark with
        | true => cases found
        | false =>
          cases found
          exact ⟨[], rfl, .inl ⟨rfl, rfl⟩⟩
      | some digit =>
        have stands := Digit.valueIn?_eq_some_iff.1 known
        rw [readDigits_cons stands] at found
        obtain ⟨⟨others, tail⟩, found, same⟩ := Option.map_eq_some_iff.1 found
        cases same
        obtain ⟨digits, rfl, follows⟩ := ih found
        have spells := Spells.cons stands follows
        cases afterMark with
        | true => exact ⟨c :: digits, rfl, spells⟩
        | false => exact ⟨c :: digits, rfl, .inr (.inl spells)⟩

/-! ### Signs and marks -/

variable {sign rest : List Char} {negative : Bool}

/-- A mark of the base and digits begin with a digit. -/
lemma plain_of_head? (isMark : IsBaseMark base mark) (spells : Spells base digits values)
    (tail : List Char) : ∀ c ∈ (mark ++ (digits ++ tail)).head?, Digit.IsPlain c := by
  cases isMark with
  | none =>
    obtain ⟨c, digit, rest, others, rfl, rfl, stands, -⟩ := spells.uncons
    simpa using stands.plain
  | hex _ isZero => simpa using isZero.standsFor.plain

lemma splitSign_append (isSign : IsSign sign negative) (plain : ∀ c ∈ rest.head?, Digit.IsPlain c) :
    splitSign (sign ++ rest) = (negative, rest) := by
  cases isSign with
  | none =>
    rw [List.nil_append]
    unfold splitSign
    split
    · exact absurd (plain _ rfl) (by decide)
    · exact absurd (plain _ rfl) (by decide)
    · rfl
  | plus => rfl
  | minus => rfl

/-- A mark of base sixteen is dropped, and what looks like one is one. -/
lemma dropBaseMark_append (isMark : IsBaseMark 16 mark) (spells : Spells 16 digits values)
    (blank : ∀ c ∈ tail, Blank.isPadding c) :
    dropBaseMark (mark ++ (digits ++ tail)) = digits ++ tail := by
  cases isMark with
  | none =>
    have noX : ∀ x ∈ digits ++ tail, ¬(x = 'x' ∨ x = 'X') := by
      intro x member isX
      rcases List.mem_append.1 member with inside | behind
      · exact spells.no_mark x inside isX
      · exact absurd (blank x behind) (by rcases isX with rfl | rfl <;> decide)
    rw [List.nil_append]
    unfold dropBaseMark
    split
    · next first x rest same =>
      rw [if_neg fun isMark => noX x (by simp [same]) isMark.2, same]
    · rfl
  | @hex zero x separator _ isZero isX single =>
    obtain ⟨c, digit, rest, others, rfl, rfl, stands, -⟩ := spells.uncons
    have value := Digit.value?_eq_some_iff.2 isZero
    rcases single with rfl | rfl
    · show dropBaseMark (zero :: x :: c :: (rest ++ tail)) = c :: (rest ++ tail)
      rw [dropBaseMark, if_pos ⟨value, isX⟩]
      exact fun _ same => stands.ne_underscore (List.cons.inj same).1
    · show dropBaseMark (zero :: x :: '_' :: c :: (rest ++ tail)) = c :: (rest ++ tail)
      rw [dropBaseMark, if_pos ⟨value, isX⟩]

lemma exists_isSign (text : List Char) :
    ∃ sign, IsSign sign (splitSign text).1 ∧ text = sign ++ (splitSign text).2 := by
  unfold splitSign
  split
  · exact ⟨['-'], .minus, rfl⟩
  · exact ⟨['+'], .plus, rfl⟩
  · exact ⟨[], .none, rfl⟩

/-- The text behind a mark of the base, if it begins with one. -/
def unmarked (base : Nat) (text : List Char) : List Char :=
  if base = 16 then dropBaseMark text else text

lemma unmarked_append (isMark : IsBaseMark base mark) (spells : Spells base digits values)
    (blank : ∀ c ∈ tail, Blank.isPadding c) :
    unmarked base (mark ++ (digits ++ tail)) = digits ++ tail := by
  unfold unmarked
  split_ifs with isHex
  · subst isHex
    exact dropBaseMark_append isMark spells blank
  · cases isMark with
    | none => rfl
    | hex isHex' => exact absurd isHex' isHex

lemma exists_isBaseMark (base : Nat) (text : List Char) :
    ∃ mark, IsBaseMark base mark ∧ text = mark ++ unmarked base text := by
  unfold unmarked dropBaseMark
  split_ifs with isHex
  · split
    · split_ifs with isMark
      · have isZero := Digit.value?_eq_some_iff.1 isMark.1
        split
        · exact ⟨_, .hex isHex isZero isMark.2 (.inr rfl), rfl⟩
        · exact ⟨_, .hex isHex isZero isMark.2 (.inl rfl), rfl⟩
      · exact ⟨[], .none, rfl⟩
    · exact ⟨[], .none, rfl⟩
  · exact ⟨[], .none, rfl⟩

/-! ### Reading -/

lemma ofDigits_eq (base : Nat) (values : List Nat) :
    ofDigits base values = Nat.ofDigits base values.reverse := by
  unfold ofDigits
  rw [Nat.ofDigits_eq_foldr, List.foldr_reverse]
  refine congrFun (congrFun (congrArg List.foldl ?_) _) _
  funext number digit
  simp [Nat.mul_comm, Nat.add_comm]

lemma signed_eq (negative : Bool) (base : Nat) (values : List Nat) :
    signed negative base values =
      if negative then -(ofDigits base values : Int) else ofDigits base values := by
  unfold signed
  rw [← ofDigits_eq]
  cases negative <;> simp

lemma read_eq (base : Nat) (text : List Char) :
    read base text =
      let front := splitSign (text.dropWhile Blank.isPadding)
      match readDigits base true (unmarked base front.2) with
      | none => .error .malformed
      | some (digits, tail) =>
        if base = 10 ∧ Numeral.digitLimit < digits.length then .error (.tooLong digits.length)
        else if tail.all Blank.isPadding then
          .ok (if front.1 then -(ofDigits base digits : Int) else ofDigits base digits)
        else .error .malformed := rfl

/-- Reading goes past what may stand in front of digits, and looks for the digits behind it. -/
lemma read_eq_of_lead (base : Nat) (text : List Char) :
    ∃ lead negative body, Leads Blank.isPadding base lead negative ∧ text = lead ++ body ∧
      read base text = match readDigits base true body with
        | none => .error .malformed
        | some (values, tail) =>
          if base = 10 ∧ Numeral.digitLimit < values.length then .error (.tooLong values.length)
          else if tail.all Blank.isPadding then .ok (signed negative base values)
          else .error .malformed := by
  obtain ⟨sign, isSign, signCut⟩ := exists_isSign (text.dropWhile Blank.isPadding)
  rw [read_eq]
  generalize splitSign (text.dropWhile Blank.isPadding) = front at isSign signCut
  obtain ⟨mark, isMark, markCut⟩ := exists_isBaseMark base front.2
  refine ⟨_, front.1, unmarked base front.2, ⟨text.takeWhile Blank.isPadding, sign, mark,
    fun _ => List.mem_takeWhile_imp, isSign, isMark, rfl⟩, ?_, ?_⟩
  · calc text = text.takeWhile Blank.isPadding ++ text.dropWhile Blank.isPadding :=
          List.takeWhile_append_dropWhile.symm
      _ = text.takeWhile Blank.isPadding ++ sign ++ mark ++ unmarked base front.2 := by
          simp only [List.append_assoc]
          rw [← markCut, ← signCut]
  · simp only [signed_eq]

/-- A text that is read as an integer is one. -/
theorem denotes_of_read {number : Int} (found : read base text = .ok number) :
    Denotes Blank.isPadding base text number := by
  obtain ⟨lead, negative, body, leads, rfl, read⟩ := read_eq_of_lead base text
  rw [read] at found
  split at found
  · cases found
  next values tail digitsFound =>
    obtain ⟨digits, rfl, spells⟩ := spells_of_readDigits digitsFound
    split_ifs at found with tooLong blank
    cases found
    exact ⟨lead, negative, digits, values, tail, leads, spells, List.all_eq_true.1 blank,
      (List.append_assoc _ _ _).symm, rfl⟩

/-- The digits that are read are among those that a text has. -/
lemma Spells.length_le (spells : Spells 10 digits values) : values.length ≤ digitCount digits := by
  have decimal {c : Char} {digit : Nat} (stands : Digit.StandsFor 10 c digit) :
      (Digit.value? c).isSome := by
    rcases stands.2 with decimal | ⟨place, -, rfl, -⟩
    · rw [Digit.value?_eq_some_iff.2 decimal, Option.isSome_some]
    · exact absurd stands.1 (by omega)
  unfold digitCount
  induction spells with
  | single stands => simp [decimal stands]
  | next stands others ih => simpa [List.countP_cons, decimal stands] using ih
  | separated stands others ih =>
    simp only [List.length_cons, List.countP_cons, decimal stands, if_true]
    omega

lemma Spells.fits (spells : Spells base digits values) (part : digits.Sublist text)
    (short : base = 10 → digitCount text ≤ Numeral.digitLimit) :
    ¬(base = 10 ∧ Numeral.digitLimit < values.length) := by
  rintro ⟨rfl, large⟩
  have few : digitCount digits ≤ digitCount text := part.countP_le
  have read := spells.length_le
  have limit := short rfl
  omega

/-- A text that is not read as an integer is said to be malformed, unless it has too many digits. -/
lemma malformed_of_read {error : ReadError} (refused : read base text = .error error)
    (short : base = 10 → digitCount text ≤ Numeral.digitLimit) : error = .malformed := by
  obtain ⟨lead, negative, body, -, rfl, read⟩ := read_eq_of_lead base text
  rw [read] at refused
  split at refused
  · cases refused
    rfl
  next values tail digitsFound =>
    obtain ⟨digits, rfl, spells⟩ := spells_of_readDigits digitsFound
    have part : digits.Sublist (lead ++ (digits ++ tail)) :=
      (List.sublist_append_left _ _).trans (List.sublist_append_right _ _)
    split_ifs at refused with tooLong
    · exact absurd tooLong (Spells.fits spells part short)
    · cases refused
      rfl

/-- A text that is an integer is read as that, unless it is decimal and has too many digits. -/
theorem read_of_denotes {number : Int} (denotes : Denotes Blank.isPadding base text number)
    (short : base = 10 → digitCount text ≤ Numeral.digitLimit) : read base text = .ok number := by
  obtain ⟨_, negative, digits, values, tail, ⟨blanks, sign, mark, blank, isSign, isMark, rfl⟩,
    spells, blank', rfl, rfl⟩ := denotes
  have plain := plain_of_head? isMark spells tail
  have begins : EndsField (Blank.isPadding ·) (sign ++ (mark ++ (digits ++ tail))) := by
    cases isSign with
    | none => exact fun c first => (plain c first).not_isPadding
    | plus => exact endsField_cons.2 (by decide)
    | minus => exact endsField_cons.2 (by decide)
  have ends : EndsDigits base tail := by
    rintro c first (rfl | ⟨digit, stands⟩)
    · exact absurd (blank' _ (List.mem_of_mem_head? first)) (by decide)
    · exact stands.plain.not_isPadding (blank' c (List.mem_of_mem_head? first))
  have part : digits.Sublist (blanks ++ sign ++ mark ++ digits ++ tail) :=
    (List.sublist_append_right _ _).trans (List.sublist_append_left _ _)
  rw [read_eq]
  simp only [List.append_assoc]
  rw [dropWhile_append_of_endsField blank begins, splitSign_append isSign plain]
  dsimp only
  rw [unmarked_append isMark spells blank', readDigits_append spells ends]
  dsimp only
  rw [if_neg (spells.fits part short), if_pos (List.all_eq_true.2 blank'), signed_eq]

/-! ### Digits in other words -/

/-- Digits without underscores, without zeros in front and with all letters in lower case. -/
def bare (digits : List Char) : List Char :=
  ((digits.filter (· ≠ '_')).map Char.toLower).dropWhile (· = '0')

lemma foldl_filter (spells : Spells base digits values) (number : Nat) :
    ((digits.filter (· ≠ '_')).map Char.toLower).foldl
        (fun number c => base * number + (Digit.valueIn? base c).getD 0) number =
      values.foldl (fun number digit => number * base + digit) number := by
  have first {c : Char} {digit : Nat} (stands : Digit.StandsFor base c digit) (rest : List Char) :
      ((c :: rest).filter (· ≠ '_')).map Char.toLower =
        c.toLower :: (rest.filter (· ≠ '_')).map Char.toLower := by
    simp [stands.ne_underscore]
  have known {c : Char} {digit : Nat} (stands : Digit.StandsFor base c digit) :
      Digit.valueIn? base c.toLower = some digit := Digit.valueIn?_eq_some_iff.2 stands.toLower
  have underscore (rest : List Char) : ('_' :: rest).filter (· ≠ '_') = rest.filter (· ≠ '_') := by
    simp
  induction spells generalizing number with
  | single stands =>
    rw [first stands, List.foldl_cons, List.foldl_cons, known stands, Nat.mul_comm]
    rfl
  | next stands others ih =>
    rw [first stands, List.foldl_cons, List.foldl_cons, known stands, Nat.mul_comm, ih]
    rfl
  | separated stands others ih =>
    rw [first stands, underscore, List.foldl_cons, List.foldl_cons, known stands, Nat.mul_comm, ih]
    rfl

/-- The number is the same if digits are written in other words. -/
lemma Spells.value_bare (atMostHex : base ≤ 16) (spells : Spells base digits values) :
    ofDigits base values = Numeral.value base (bare digits) := by
  have positive : 0 < base := by
    obtain ⟨c, digit, rest, others, -, -, stands, -⟩ := spells.uncons
    exact Nat.zero_lt_of_lt stands.1
  let words := (digits.filter (· ≠ '_')).map Char.toLower
  have zeros : words.takeWhile (· = '0') = List.replicate (words.takeWhile (· = '0')).length '0' := by
    refine List.eq_replicate_of_mem fun c member => ?_
    simpa using List.mem_takeWhile_imp member
  calc ofDigits base values = Numeral.value base words := (foldl_filter spells 0).symm
    _ = Numeral.value base (words.takeWhile (· = '0') ++ words.dropWhile (· = '0')) := by
        rw [List.takeWhile_append_dropWhile]
    _ = Numeral.value base (words.dropWhile (· = '0')) := by
        rw [zeros, Numeral.value_zeros positive atMostHex]

end Integer

end Chip8
