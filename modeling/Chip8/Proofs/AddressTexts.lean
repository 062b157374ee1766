import Chip8.CommandLine.Value
import Chip8.Proofs.IntegerTexts

/-!
# Which texts are addresses

Of a text for an address the blanks around it are dropped (`Blank.isCore_iff`), then a dollar sign or
`0x` in front makes it hexadecimal (`Value.isBody_addressBody`, `Value.IsBody.addressBody_eq`), and the
rest is an integer. So the texts that are addresses are a language of their own, the one that is read
(`Value.address_reads_language`). Two sets of blanks meet in it. The information separators are dropped
around a text, but they are no blanks between a mark of the base and a number
(`Value.address_refuses_separator`).
-/

namespace Chip8

/-! ## Blanks around a text -/

namespace Blank

variable {text core before after : List Char}

/-- What is left of a text without the blanks around it. -/
structure IsCore (text core : List Char) : Prop where
  around : ∃ before after, (∀ c ∈ before, isBlank c) ∧ (∀ c ∈ after, isBlank c) ∧
    text = before ++ core ++ after
  first : ∀ c ∈ core.head?, ¬isBlank c
  last : ∀ c ∈ core.getLast?, ¬isBlank c

lemma not_isBlank_of_head? (text : List Char) :
    ∀ c ∈ (text.dropWhile isBlank).head?, ¬isBlank c := by
  intro c first
  have stops := List.head?_dropWhile_not isBlank text
  rw [Option.mem_def.1 first] at stops
  exact ne_true_of_eq_false stops

lemma isCore_trim (text : List Char) : IsCore text (trim text) := by
  let rest := text.dropWhile isBlank
  have cut : rest = trim text ++ (rest.reverse.takeWhile isBlank).reverse := by
    rw [trim, ← List.reverse_append, List.takeWhile_append_dropWhile, List.reverse_reverse]
  refine ⟨⟨text.takeWhile isBlank, (rest.reverse.takeWhile isBlank).reverse,
    fun _ => List.mem_takeWhile_imp, ?_, ?_⟩, fun c first => ?_, fun c last => ?_⟩
  · exact fun c member => List.mem_takeWhile_imp (List.mem_reverse.1 member)
  · rw [List.append_assoc, ← cut, List.takeWhile_append_dropWhile]
  · refine not_isBlank_of_head? text c ?_
    show c ∈ rest.head?
    rw [cut, List.head?_append, Option.mem_def.1 first]
    rfl
  · rw [trim, List.getLast?_reverse] at last
    exact not_isBlank_of_head? _ c last

lemma IsCore.trim_eq (isCore : IsCore text core) : trim text = core := by
  obtain ⟨⟨before, after, blank, blank', rfl⟩, first, last⟩ := isCore
  unfold trim
  cases core with
  | nil =>
    have nothing : (before ++ [] ++ after).dropWhile isBlank = [] := by
      rw [List.dropWhile_eq_nil_iff]
      simpa [or_imp, forall_and] using ⟨blank, blank'⟩
    rw [nothing]
    rfl
  | cons c rest =>
    have ends : EndsField (isBlank ·) (c :: rest).reverse := by
      rw [List.getLast?_eq_head?_reverse] at last
      exact last
    have begins : EndsField (isBlank ·) (c :: rest ++ after) := endsField_cons.2 (first c rfl)
    rw [List.append_assoc, dropWhile_append_of_endsField blank begins, List.reverse_append,
      dropWhile_append_of_endsField (by simpa using blank') ends, List.reverse_reverse]

lemma isCore_iff : IsCore text core ↔ trim text = core :=
  ⟨IsCore.trim_eq, fun same => same ▸ isCore_trim text⟩

/-- Blanks around a text make no difference to what is left of it. -/
lemma trim_append (blank : ∀ c ∈ before, isBlank c) (blank' : ∀ c ∈ after, isBlank c)
    (text : List Char) : trim (before ++ text ++ after) = trim text := by
  obtain ⟨⟨first, last, firsts, lasts, around⟩, begins, ends⟩ := isCore_trim text
  refine IsCore.trim_eq ⟨⟨before ++ first, last ++ after, ?_, ?_, ?_⟩, begins, ends⟩
  · simpa [or_imp, forall_and] using ⟨blank, firsts⟩
  · simpa [or_imp, forall_and] using ⟨lasts, blank'⟩
  · nth_rewrite 1 [around]
    simp only [List.append_assoc]

end Blank

/-! ## Marks of the base -/

namespace Value

variable {base : Nat} {core body digits : List Char}

/-- The base in which a text is written, and its digits without the mark of the base. -/
inductive IsBody : List Char → Nat → List Char → Prop
  | dollar {body : List Char} : IsBody ('$' :: body) 16 body
  | hex {x : Char} {body : List Char} (isX : x = 'x' ∨ x = 'X') : IsBody ('0' :: x :: body) 16 body
  | decimal {body : List Char} (noDollar : ∀ rest, body ≠ '$' :: rest)
      (noHex : ∀ x rest, x = 'x' ∨ x = 'X' → body ≠ '0' :: x :: rest) : IsBody body 10 body

lemma isBody_addressBody (core : List Char) :
    IsBody core (addressBody core).1 (addressBody core).2 := by
  unfold addressBody
  split
  · exact .dollar
  next noDollar =>
    split_ifs with marked
    · unfold hasHexMark at marked
      split at marked
      next x rest => exact .hex (by simpa using marked)
      next => cases marked
    · refine .decimal (fun rest same => noDollar rest same) ?_
      rintro x rest isX rfl
      exact marked (by simpa [hasHexMark] using isX)

lemma IsBody.addressBody_eq (isBody : IsBody core base body) : addressBody core = (base, body) := by
  cases isBody with
  | dollar => rfl
  | hex isX => rcases isX with rfl | rfl <;> rfl
  | decimal noDollar noHex =>
    have unmarked : ¬hasHexMark core := by
      unfold hasHexMark
      split
      next x rest => exact fun isX => noHex x rest (by simpa using isX) rfl
      next => simp
    unfold addressBody
    split
    next rest => exact absurd rfl (noDollar rest)
    next => exact if_neg unmarked

lemma IsBody.sublist (isBody : IsBody core base body) : body.Sublist core := by
  cases isBody with
  | dollar => exact List.sublist_cons_self _ _
  | hex => exact (List.sublist_cons_self _ _).trans (List.sublist_cons_self _ _)
  | decimal => exact List.Sublist.refl _

/-! ## Addresses -/

variable {text front digits' : List Char} {values values' : List Nat} {number : Int} {negative : Bool}

/-- A text is written as a number, if certain characters count as blanks in front of it. -/
def StandsFor (isBlank : Char → Bool) (text : List Char) (number : Int) : Prop :=
  ∃ core base body, Blank.IsCore text core ∧ IsBody core base body ∧
    Integer.Denotes isBlank base body number

/-- What is said of a text that is no address: that its number is outside memory or, if it has none,
that it cannot be read. -/
inductive IsRefusal (text : List Char) : ValueError → Prop
  | outside {number : Int} (stands : StandsFor Blank.isPadding text number)
      (outside : ¬(0 ≤ number ∧ number ≤ 4095)) : IsRefusal text (.addressOutside number)
  | malformed {core body : List Char} {base : Nat} (isCore : Blank.IsCore text core)
      (isBody : IsBody core base body) (nothing : ¬∃ number, StandsFor Blank.isPadding text number) :
      IsRefusal text (.unreadable base body .malformed)

lemma toNat_lt (inside : 0 ≤ number ∧ number < 4096) : number.toNat < 4096 := by omega

lemma address_eq (text : String) {core body : List Char} {base : Nat}
    (isCore : Blank.IsCore text.toList core) (isBody : IsBody core base body) :
    address text = match Integer.read base body with
      | .ok number =>
        if inside : 0 ≤ number ∧ number < 4096 then .ok ⟨number.toNat, toNat_lt inside⟩
        else .error (.addressOutside number)
      | .error error => .error (.unreadable base body error) := by
  unfold address readInteger
  rw [isCore.trim_eq, isBody.addressBody_eq]
  dsimp only
  cases Integer.read base body <;> rfl

lemma digitCount_le {core : List Char} (isCore : Blank.IsCore text core)
    (isBody : IsBody core base body) : Integer.digitCount body ≤ Integer.digitCount text := by
  obtain ⟨before, after, -, -, rfl⟩ := isCore.around
  have inner : core.Sublist (before ++ core ++ after) :=
    (List.sublist_append_right before core).trans (List.sublist_append_left _ _)
  exact (isBody.sublist.trans inner).countP_le

lemma exists_isBody (text : List Char) :
    ∃ core base body, Blank.IsCore text core ∧ IsBody core base body :=
  ⟨_, _, _, Blank.isCore_trim text, isBody_addressBody _⟩

section
variable {text : String} (short : Integer.digitCount text.toList ≤ Numeral.digitLimit)
include short

/-- A text that is written as a number is the address with that number, if there is one. -/
lemma address_of_standsFor (stands : StandsFor Blank.isPadding text.toList number) :
    address text = if inside : 0 ≤ number ∧ number < 4096 then .ok ⟨number.toNat, toNat_lt inside⟩
      else .error (.addressOutside number) := by
  obtain ⟨core, base, body, isCore, isBody, denotes⟩ := stands
  have few := (digitCount_le isCore isBody).trans short
  rw [address_eq text isCore isBody, Integer.read_of_denotes denotes fun _ => few]

/-- Any other text is refused. -/
lemma address_of_not_standsFor
    (nothing : ¬∃ number, StandsFor Blank.isPadding text.toList number) :
    ∃ error, address text = .error error ∧ IsRefusal text.toList error := by
  obtain ⟨core, base, body, isCore, isBody⟩ := exists_isBody text.toList
  have few := (digitCount_le isCore isBody).trans short
  refine ⟨.unreadable base body .malformed, ?_, .malformed isCore isBody nothing⟩
  rw [address_eq text isCore isBody]
  cases read : Integer.read base body with
  | ok number =>
    exact absurd ⟨number, core, base, body, isCore, isBody, Integer.denotes_of_read read⟩ nothing
  | error error => rw [Integer.malformed_of_read read fun _ => few]

end

/-! ## Addresses in other words -/

/-- What may stand in front of the digits of an address: a mark of its base, or none, and what leads an
integer. -/
inductive Fronts : Nat → List Char → Bool → Prop
  | dollar {lead : List Char} {negative : Bool} (leads : Integer.Leads Blank.isPadding 16 lead negative) :
      Fronts 16 ('$' :: lead) negative
  | hex {x : Char} {lead : List Char} {negative : Bool} (isX : x = 'x' ∨ x = 'X')
      (leads : Integer.Leads Blank.isPadding 16 lead negative) : Fronts 16 ('0' :: x :: lead) negative
  | decimal {lead : List Char} {negative : Bool}
      (leads : Integer.Leads Blank.isPadding 10 lead negative) : Fronts 10 lead negative

/-- Two texts with the same digits in other words: one may have more or fewer zeros in front of them,
underscores between them and capital letters among them than the other. -/
def Respelled (text text' : List Char) : Prop :=
  ∃ base front negative digits digits' values values', Fronts base front negative ∧
    Integer.Spells base digits values ∧ Integer.Spells base digits' values' ∧
    Integer.bare digits = Integer.bare digits' ∧ text = front ++ digits ∧ text' = front ++ digits'

/-- A text that ends with digits and does not begin with a blank is the core of what it stands in. -/
lemma isCore_append (spells : Integer.Spells base digits values) {before : List Char}
    (blank : ∀ c ∈ before, Blank.isBlank c) {lead : List Char}
    (begins : ∀ c ∈ (lead ++ digits).head?, ¬Blank.isBlank c) :
    Blank.IsCore (before ++ (lead ++ digits)) (lead ++ digits) := by
  refine ⟨⟨before, [], blank, by simp, by simp⟩, begins, fun c last => ?_⟩
  obtain ⟨c', digit, rest, others, rfl, -⟩ := spells.uncons
  rw [List.getLast?_append_of_ne_nil _ (by simp)] at last
  exact ne_true_of_eq_false (spells.plain_of_getLast? c last).2

/-- Behind a mark of base sixteen comes the integer. -/
lemma standsFor_of_hex (mark : List Char) {lead : List Char}
    (leads : Integer.Leads Blank.isPadding 16 lead negative) (spells : Integer.Spells 16 digits values)
    (isMark : ∀ body, IsBody (mark ++ body) 16 body)
    (begins : ∀ c ∈ (mark ++ lead ++ digits).head?, ¬Blank.isBlank c) :
    StandsFor Blank.isPadding (mark ++ lead ++ digits) (Integer.signed negative 16 values) := by
  have isCore := isCore_append spells (fun _ => List.not_mem_nil.elim) begins
  refine ⟨_, 16, lead ++ digits, isCore, ?_, lead, negative, digits, values, [], leads, spells,
    by simp, by simp, rfl⟩
  rw [List.append_assoc]
  exact isMark _

/-- Without a mark the blanks in front of the sign are not part of the text. -/
lemma standsFor_of_decimal {lead : List Char}
    (leads : Integer.Leads Blank.isPadding 10 lead negative) (spells : Integer.Spells 10 digits values) :
    StandsFor Blank.isPadding (lead ++ digits) (Integer.signed negative 10 values) := by
  obtain ⟨blanks, sign, mark, blank, isSign, isMark, rfl⟩ := leads
  obtain rfl : mark = [] := by
    cases isMark with
    | none => rfl
    | hex isHex => cases isHex
  have plain : ∀ c ∈ digits.head?, Digit.IsPlain c := by
    simpa using Integer.plain_of_head? .none spells []
  have isBlank : ∀ c ∈ blanks, Blank.isBlank c := fun c member =>
    Blank.isBlank_of_isPadding (blank c member)
  have isCore : Blank.IsCore (blanks ++ (sign ++ digits)) (sign ++ digits) := by
    refine isCore_append spells isBlank ?_
    cases isSign with
    | none => exact fun c first => ne_true_of_eq_false (plain c first).2
    | plus => simpa using by decide
    | minus => simpa using by decide
  have isBody : IsBody (sign ++ digits) 10 (sign ++ digits) := by
    cases isSign with
    | none =>
      refine .decimal (fun rest same => ?_) fun x rest isX same => ?_
      · exact absurd (plain '$' (by simpa using congrArg List.head? same)) (by decide)
      · exact spells.no_mark x (by rw [show digits = '0' :: x :: rest from same]; simp) isX
    | plus => exact .decimal (by simp) (by simp)
    | minus => exact .decimal (by simp) (by simp)
  refine ⟨_, 10, _, ?_, isBody, sign, negative, digits, values, [], ?_, spells, by simp, by simp, rfl⟩
  · simpa using isCore
  · exact ⟨[], sign, [], by simp, isSign, .none, by simp⟩

lemma Fronts.standsFor (fronts : Fronts base front negative)
    (spells : Integer.Spells base digits values) :
    StandsFor Blank.isPadding (front ++ digits) (Integer.signed negative base values) := by
  cases fronts with
  | dollar leads =>
    exact standsFor_of_hex ['$'] leads spells (fun _ => .dollar) (by simpa using by decide)
  | @hex x _ _ isX leads =>
    exact standsFor_of_hex ['0', x] leads spells (fun _ => .hex isX) (by simpa using by decide)
  | decimal leads => exact standsFor_of_decimal leads spells

lemma Fronts.base_le (fronts : Fronts base front negative) : base ≤ 16 := by
  cases fronts <;> decide

/-- Texts with the same digits in other words are read alike. -/
lemma address_of_respelled {text text' : String}
    (short : Integer.digitCount text.toList ≤ Numeral.digitLimit)
    (short' : Integer.digitCount text'.toList ≤ Numeral.digitLimit)
    (respelled : Respelled text.toList text'.toList) : address text' = address text := by
  obtain ⟨base, front, negative, digits, digits', values, values', fronts, spells, spells', words,
    text_eq, text_eq'⟩ := respelled
  have stands := fronts.standsFor spells
  have stands' := fronts.standsFor spells'
  have number : Integer.signed negative base values' = Integer.signed negative base values := by
    rw [Integer.signed_eq, Integer.signed_eq, spells.value_bare fronts.base_le,
      spells'.value_bare fronts.base_le, words]
  rw [← text_eq] at stands
  rw [← text_eq', number] at stands'
  rw [address_of_standsFor short stands, address_of_standsFor short' stands']

/-- A text is read as an address just if it is in the language of addresses. That is, without the blanks
around it the text has a dollar sign or `0x` in front of digits of base sixteen or else has digits of base
ten, with a sign and blanks other than the information separators before the digits, in base sixteen
perhaps another mark of the base behind the sign, and with at most single underscores between the digits,
which may come from any script. Its value lies in memory. Any other text is refused, because its number
lies outside memory or because it has none. Blanks around a text and the way in which its digits are
written, with zeros in front, underscores or capital letters, make no difference to what it is read as. -/
theorem address_reads_language {text : String}
    (short : Integer.digitCount text.toList ≤ Numeral.digitLimit) :
    (∀ a : Fin 4096, address text = .ok a ↔ StandsFor Blank.isPadding text.toList a.val) ∧
    ((¬∃ a : Fin 4096, StandsFor Blank.isPadding text.toList a.val) →
      ∃ error, address text = .error error ∧ IsRefusal text.toList error) ∧
    (∀ before after : String, (∀ c ∈ before.toList, Blank.isBlank c) →
      (∀ c ∈ after.toList, Blank.isBlank c) → address (before ++ text ++ after) = address text) ∧
    ∀ text' : String, Integer.digitCount text'.toList ≤ Numeral.digitLimit →
      Respelled text.toList text'.toList → address text' = address text := by
  refine ⟨fun a => ⟨fun read => ?_, fun stands => ?_⟩, fun nothing => ?_,
    fun before after blank blank' => ?_, fun text' short' => address_of_respelled short short'⟩
  · by_cases something : ∃ number, StandsFor Blank.isPadding text.toList number
    · obtain ⟨number, stands⟩ := something
      rw [address_of_standsFor short stands] at read
      split_ifs at read with inside
      cases read
      rwa [Int.toNat_of_nonneg inside.1]
    · obtain ⟨error, refused, -⟩ := address_of_not_standsFor short something
      rw [refused] at read
      cases read
  · rw [address_of_standsFor short stands, dif_pos (by omega)]
    rfl
  · by_cases something : ∃ number, StandsFor Blank.isPadding text.toList number
    · obtain ⟨number, stands⟩ := something
      have outside : ¬(0 ≤ number ∧ number < 4096) := fun inside =>
        nothing ⟨⟨number.toNat, toNat_lt inside⟩, by rwa [Int.toNat_of_nonneg inside.1]⟩
      exact ⟨_, (address_of_standsFor short stands).trans (dif_neg outside),
        .outside stands (by omega)⟩
    · exact address_of_not_standsFor short something
  · unfold address
    rw [String.toList_append, String.toList_append, Blank.trim_append blank blank']

/-- Hexadecimal twice over, the second time with a zero of another script, and the same without the
underscore, in a capital letter and with zeros in front. -/
theorem address_reads_language_with_two_marks :
    let text := "0x +\u0660X_20_a"
    Integer.digitCount text.toList ≤ Numeral.digitLimit ∧
      StandsFor Blank.isPadding text.toList 0x20A ∧ address ("\x1f" ++ text ++ "\u2003") = .ok 0x20A ∧
      address "0x +\u0660X_00020A" = .ok 0x20A := by
  intro text
  have short : Integer.digitCount text.toList ≤ Numeral.digitLimit := by decide +kernel
  have known : address text = .ok 0x20A := by decide +kernel
  obtain ⟨reads, -, around, respelled⟩ := address_reads_language short
  refine ⟨short, (reads 0x20A).1 known, ?_, ?_⟩
  · have blank (text : String) (all : text.toList.all Blank.isBlank = true) :
        ∀ c ∈ text.toList, Blank.isBlank c := List.all_eq_true.1 all
    exact (around "\x1f" "\u2003" (blank _ (by decide +kernel)) (blank _ (by decide +kernel))).trans known
  · refine (respelled _ (by decide +kernel) ?_).trans known
    have stands {c : Char} {digit : Nat} (value : Digit.valueIn? 16 c = some digit) :
        Digit.StandsFor 16 c digit := Digit.valueIn?_eq_some_iff.1 value
    have two : Digit.StandsFor 16 '2' 2 := stands (by decide)
    have zero : Digit.StandsFor 16 '0' 0 := stands (by decide)
    have leads : Integer.Leads Blank.isPadding 16 [' ', '+', '\u0660', 'X', '_'] false :=
      ⟨[' '], ['+'], ['\u0660', 'X', '_'], List.forall_mem_singleton.2 (by decide), .plus,
        .hex rfl (Digit.value?_eq_some_iff.1 (by decide)) (.inr rfl) (.inr rfl), rfl⟩
    have few : Integer.Spells 16 ['2', '0', '_', 'a'] [2, 0, 10] :=
      .next two (.separated zero (.single (stands (by decide))))
    have more : Integer.Spells 16 ['0', '0', '0', '2', '0', 'A'] [0, 0, 0, 2, 0, 10] :=
      .next zero (.next zero (.next zero (.next two (.next zero (.single (stands (by decide)))))))
    exact ⟨16, _, false, _, _, _, _, .hex (.inl rfl) leads, few, more, by decide, by decide +kernel,
      by decide +kernel⟩

/-- Behind a mark of the base an information separator does not count as a blank, though it is one in
front of the mark: the text is refused. -/
theorem address_refuses_separator :
    let text := "$\x1c12"
    Integer.digitCount text.toList ≤ Numeral.digitLimit ∧
      StandsFor Blank.isBlank text.toList 0x12 ∧
      address text = .error (.unreadable 16 ['\x1c', '1', '2'] .malformed) := by
  have spells : Integer.Spells 16 ['1', '2'] [1, 2] :=
    .next (Digit.valueIn?_eq_some_iff.1 (by decide)) (.single (Digit.valueIn?_eq_some_iff.1 (by decide)))
  have leads : Integer.Leads Blank.isBlank 16 ['\x1c'] false :=
    ⟨['\x1c'], [], [], List.forall_mem_singleton.2 (by decide), .none, .none, rfl⟩
  refine ⟨by decide +kernel, ⟨['$', '\x1c', '1', '2'], 16, ['\x1c', '1', '2'], ?_, .dollar, ?_⟩,
    by decide +kernel⟩
  · exact Blank.isCore_iff.2 (by decide +kernel)
  · exact ⟨_, false, _, _, [], leads, spells, by simp, rfl, by decide⟩

end Value

end Chip8
