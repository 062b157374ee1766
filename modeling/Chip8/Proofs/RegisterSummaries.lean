import Chip8.Proofs.Fields
import Chip8.Proofs.WellFormedness

/-!
# Dumps can be told from their summaries

A summary of registers is made of fields: general registers in pairs of a name and a number, with a
blank between two pairs, and below them the other registers, each number behind its name. So it gives
away every number and whether the machine waits (`RegisterDump.summary_inj`), and the same is true of
the named numbers that it is made from (`summary_is_lossless`), unless one of those in decimal has too
many digits to be written. The registers of a machine carry the names that the summary looks for, and
are small enough for their places.
-/

namespace Chip8

open Numeral

/-! ## Counts -/

namespace Count

variable {count count' : Count}

lemma eq_iff : count = count' ↔ count.reading = count'.reading := by
  obtain ⟨reading, isWritable⟩ := count
  obtain ⟨reading', isWritable'⟩ := count'
  simp only [Count.mk.injEq]

lemma blank_notMem_text (count : Count) : ' ' ∉ count.text.toList := by
  have words (value : Bool) : ' ' ∉ (if value then "True" else "False").toList := by
    cases value <;> decide
  obtain ⟨reading, isWritable⟩ := count
  cases reading with
  | number value => exact fun member => absurd (isMark_of_mem_decimal member) (by decide)
  | truth value => exact words value

/-- A number is not written like a truth value. -/
lemma decimal_ne_word (number : Int) (value : Bool) :
    decimal number ≠ if value then "True" else "False" := by
  intro same
  have member : 'e' ∈ (decimal number).toList := by
    rw [same]
    cases value <;> decide
  exact absurd (isMark_of_mem_decimal member) (by decide)

/-- No two readings are written alike. -/
lemma text_inj : count.text = count'.text ↔ count = count' := by
  have words_inj : ∀ value value' : Bool, (if value then "True" else "False") =
      (if value' then "True" else "False") → value = value' := by decide
  constructor
  · intro same
    rw [eq_iff]
    obtain ⟨reading, isWritable⟩ := count
    obtain ⟨reading', isWritable'⟩ := count'
    cases reading with
    | number value =>
      cases reading' with
      | number value' => exact congrArg Reading.number (decimal_inj.1 same)
      | truth value' => exact absurd same (decimal_ne_word value value')
    | truth value =>
      cases reading' with
      | number value' => exact absurd same.symm (decimal_ne_word value' value)
      | truth value' => exact congrArg Reading.truth (words_inj value value' same)
  · rintro rfl
    rfl

/-- What is made of the reading of a count is the count. -/
lemma ofReading_reading (count : Count) : ofReading count.reading = .ok count := dif_pos count.isWritable

lemma ofReading_of_not_isWritable {reading : Reading} (refused : ¬reading.IsWritable) :
    ofReading reading = .error .tooManyDigits := dif_neg refused

end Count

namespace RegisterDump

variable {dump dump' : RegisterDump} {entries entries' : List (String × Reading)}

/-! ## The two lines -/

/-- A general register in a summary. -/
def field (x : Fin 16) (number : Int) : String := "V" ++ hex 1 x.val ++ "=" ++ hex 2 number

lemma generalLine_eq (dump : RegisterDump) :
    dump.generalLine = " ".intercalate ((List.finRange 16).map fun x => field x (dump.v.get x)) := rfl

lemma field_inj {x : Fin 16} {number number' : Int} :
    field x number = field x number' ↔ number = number' :=
  (String.append_right_inj _).trans hex_inj

lemma notMem_field {c : Char} (other : ¬IsMark c) (notIn : c ∉ "V=".toList) (x : Fin 16)
    (number : Int) : c ∉ (field x number).toList := by
  have outside {width : Nat} {number : Int} : c ∉ (hex width number).toList := fun member =>
    other (isMark_of_mem_hex member)
  simp only [field, String.toList_append, List.mem_append, not_or]
  simp_all

lemma newline_notMem_generalLine (dump : RegisterDump) : '\n' ∉ dump.generalLine.toList := by
  rw [generalLine_eq, String.toList_intercalate]
  refine notMem_intercalate (by decide) ?_
  simp only [List.mem_map, forall_exists_index, and_imp, forall_apply_eq_imp_iff₂]
  exact fun x _ => notMem_field (by decide) (by decide) x _

lemma generalLine_inj (same : dump.generalLine = dump'.generalLine) : dump.v = dump'.v := by
  have unbroken (dump : RegisterDump) : ∀ text ∈ ((List.finRange 16).map fun x =>
      field x (dump.v.get x)).map String.toList, ' ' ∉ text := by
    simp only [List.mem_map, forall_exists_index, and_imp, forall_apply_eq_imp_iff₂]
    exact fun x _ => notMem_field (by decide) (by decide) x _
  have texts := congrArg String.toList same
  rw [generalLine_eq, generalLine_eq, String.toList_intercalate, String.toList_intercalate] at texts
  have fields := intercalate_inj (unbroken dump) (unbroken dump') (by simp) (by simp) texts
  rw [List.map_inj_right fun _ _ => String.toList_injective, List.map_inj_left] at fields
  apply Vector.ext
  intro x small
  exact field_inj.1 (fields ⟨x, small⟩ (List.mem_finRange _))

/-- What a summary ends with. -/
def remark (waiting : Bool) : String := if waiting then " (waiting for key)" else ""

lemma stateLine_eq (dump : RegisterDump) :
    dump.stateLine = "PC=" ++ word dump.pc ++ " I=" ++ word dump.index ++ " SP=" ++
      dump.depth.text ++ " DT=" ++ dump.delay.text ++ " ST=" ++ dump.sound.text ++
        remark dump.waiting := rfl

/-- A text that may stand behind a value: it is empty or begins with a blank. -/
def EndsValue (rest : String) : Prop := EndsField (· ≠ ' ') rest.toList

variable {rest rest' : String}

lemma endsValue_append {name : String} (head : name.toList.head? = some ' ') :
    EndsValue (name ++ rest) := by
  unfold EndsValue EndsField
  simp [head]

lemma endsValue_remark (waiting : Bool) : EndsValue (remark waiting) := by
  cases waiting with
  | true => exact endsField_cons.2 (not_not.2 rfl)
  | false => exact endsField_nil

lemma EndsValue.endsNumber (ends : EndsValue rest) : EndsNumber rest := by
  intro c head isMark
  have blank : c = ' ' := not_not.1 (ends c head)
  rw [blank] at isMark
  exact absurd isMark (by decide)

lemma count_append_inj {count count' : Count} (ends : EndsValue rest) (ends' : EndsValue rest')
    (same : count.text ++ rest = count'.text ++ rest') : count = count' ∧ rest = rest' := by
  have unbroken (count : Count) : ∀ c ∈ count.text.toList, c ≠ ' ' := fun c member =>
    ne_of_mem_of_not_mem member count.blank_notMem_text
  have texts := congrArg String.toList same
  rw [String.toList_append, String.toList_append] at texts
  obtain ⟨written, others⟩ := append_inj_of_field (unbroken count) (unbroken count') ends ends' texts
  exact ⟨Count.text_inj.1 (String.toList_injective written), String.toList_injective others⟩

lemma stateLine_inj (same : dump.stateLine = dump'.stateLine) :
    dump.pc = dump'.pc ∧ dump.index = dump'.index ∧ dump.depth = dump'.depth ∧
      dump.delay = dump'.delay ∧ dump.sound = dump'.sound ∧ dump.waiting = dump'.waiting := by
  have ends {name rest : String} (head : name.toList.head? = some ' ') : EndsValue (name ++ rest) :=
    endsValue_append head
  rw [stateLine_eq, stateLine_eq] at same
  unfold word at same
  simp only [String.append_assoc, String.append_right_inj] at same
  -- Value by value, each up to the name behind it.
  obtain ⟨pc, same⟩ := hex_append_inj (ends (by simp)).endsNumber (ends (by simp)).endsNumber same
  simp only [String.append_right_inj] at same
  obtain ⟨index, same⟩ := hex_append_inj (ends (by simp)).endsNumber (ends (by simp)).endsNumber same
  rw [String.append_right_inj] at same
  obtain ⟨depth, same⟩ := count_append_inj (ends (by simp)) (ends (by simp)) same
  rw [String.append_right_inj] at same
  obtain ⟨delay, same⟩ := count_append_inj (ends (by simp)) (ends (by simp)) same
  rw [String.append_right_inj] at same
  obtain ⟨sound, same⟩ := count_append_inj (endsValue_remark _) (endsValue_remark _) same
  have remarks (a b : Bool) (same : remark a = remark b) : a = b := by
    cases a <;> cases b <;> simp_all [remark]
  exact ⟨pc, index, depth, delay, sound, remarks _ _ same⟩

lemma summary_eq (dump : RegisterDump) :
    dump.summary =
      " ".intercalate ((List.finRange 16).map fun x => "V" ++ hex 1 x.val ++ "=" ++ hex 2 (dump.v.get x)) ++
        "\n" ++ ("PC=$" ++ hex 4 dump.pc ++ " I=$" ++ hex 4 dump.index ++ " SP=" ++
          dump.depth.text ++ " DT=" ++ dump.delay.text ++ " ST=" ++ dump.sound.text ++
            remark dump.waiting) := by
  have dollars : "PC=$" = "PC=" ++ "$" ∧ " I=$" = " I=" ++ "$" := by decide
  have state : dump.stateLine = "PC=$" ++ hex 4 dump.pc ++ " I=$" ++ hex 4 dump.index ++ " SP=" ++
      dump.depth.text ++ " DT=" ++ dump.delay.text ++ " ST=" ++ dump.sound.text ++
        remark dump.waiting := by
    rw [stateLine_eq, dollars.1, dollars.2]
    simp only [word, String.append_assoc]
  rw [← state]
  rfl

/-- Different dumps have different summaries. -/
theorem summary_inj : dump.summary = dump'.summary ↔ dump = dump' := by
  constructor
  · intro same
    have texts := congrArg String.toList same
    unfold summary at texts
    simp only [String.append_assoc, String.toList_append] at texts
    have line (dump : RegisterDump) : ∀ c ∈ dump.generalLine.toList, c ≠ '\n' := fun c member =>
      ne_of_mem_of_not_mem member dump.newline_notMem_generalLine
    have newline (rest : List Char) : EndsField (· ≠ '\n') ("\n".toList ++ rest) :=
      endsField_cons.2 (not_not.2 rfl)
    obtain ⟨general, rest⟩ :=
      append_inj_of_field (line dump) (line dump') (newline _) (newline _) texts
    have v := generalLine_inj (String.toList_injective general)
    have state := stateLine_inj (String.toList_injective (List.append_cancel_left rest))
    cases dump
    cases dump'
    simp_all
  · rintro rfl
    rfl

/-! ## Named numbers -/

/-- The names of the numbers that a summary gives in decimal. -/
def countNames : List String := ["sp", "dt", "st"]

/-- The names of all numbers in a summary. -/
def numberNames : List String :=
  (List.finRange 16).map registerName ++ ["pc", "i"] ++ countNames

/-- Nothing that a summary says is missing. -/
def IsComplete (entries : List (String × Reading)) : Prop :=
  ∀ name ∈ "awaiting_key" :: numberNames, (entries.lookup name).isSome

/-- The number of that name. -/
def value? (entries : List (String × Reading)) (name : String) : Option Int :=
  (entries.lookup name).map Reading.value

/-- Whether there is to be a remark that the machine waits. -/
def saysWaiting (entries : List (String × Reading)) : Bool :=
  (value? entries "awaiting_key").any (· != 0)

/-- The summary of named numbers, unless one is missing or cannot be written. -/
def summaryOf (entries : List (String × Reading)) : Except Misuse String :=
  (ofEntries entries).map summary

/-- Named numbers that are those of a dump. -/
structure Describes (entries : List (String × Reading)) (dump : RegisterDump) : Prop where
  general (x : Fin 16) : value? entries (registerName x) = some (dump.v.get x)
  pc : value? entries "pc" = some dump.pc
  index : value? entries "i" = some dump.index
  depth : entries.lookup "sp" = some dump.depth.reading
  delay : entries.lookup "dt" = some dump.delay.reading
  sound : entries.lookup "st" = some dump.sound.reading
  waits : (value? entries "awaiting_key").map (· != 0) = some dump.waiting

section
variable {name : String}

lemma number_of_value? {value : Int} (known : value? entries name = some value) :
    number entries name = .ok value := by
  obtain ⟨reading, found, rfl⟩ := Option.map_eq_some_iff.1 known
  rw [number, entry, found]
  rfl

lemma count_of_lookup {reading : Reading} (found : entries.lookup name = some reading) :
    count entries name = Count.ofReading reading := by
  rw [count, entry, found]
  rfl

lemma mapM_number {v : Vector Int 16}
    (known : ∀ x : Fin 16, value? entries (registerName x) = some (v.get x)) :
    (Vector.ofFn registerName).mapM (number entries) = .ok v := by
  have names : Vector.ofFn registerName = (Vector.finRange 16).map registerName := by
    ext x small
    simp
  have found : number entries ∘ registerName = fun x => pure (v.get x) :=
    funext fun x => number_of_value? (known x)
  have numbers : (Vector.finRange 16).map v.get = v := by
    ext x small
    rw [Vector.getElem_map, Vector.getElem_finRange]
    rfl
  rw [names, Vector.mapM_map, found, Vector.mapM_pure, numbers]
  rfl

end

lemma forall_mem_numberNames {property : String → Prop} :
    (∀ name ∈ numberNames, property name) ↔ (∀ x : Fin 16, property (registerName x)) ∧
      property "pc" ∧ property "i" ∧ property "sp" ∧ property "dt" ∧ property "st" := by
  simp [numberNames, countNames, or_imp, forall_and]

lemma forall_mem_countNames {property : String → Prop} :
    (∀ name ∈ countNames, property name) ↔ property "sp" ∧ property "dt" ∧ property "st" := by
  simp [countNames]

/-- Once all numbers are found, only counts can be refused. -/
lemma ofEntries_eq {v : Vector Int 16} {pc index : Int} {waiting : Bool}
    (general : ∀ x : Fin 16, value? entries (registerName x) = some (v.get x))
    (pc_eq : value? entries "pc" = some pc) (index_eq : value? entries "i" = some index)
    (waits : (value? entries "awaiting_key").map (· != 0) = some waiting) :
    ofEntries entries = do
      let depth ← count entries "sp"
      let delay ← count entries "dt"
      let sound ← count entries "st"
      return { v, pc, index, depth, delay, sound, waiting } := by
  obtain ⟨number, known, rfl⟩ := Option.map_eq_some_iff.1 waits
  unfold ofEntries
  rw [mapM_number general, number_of_value? pc_eq, number_of_value? index_eq, number_of_value? known]
  rfl

lemma Describes.ofEntries_eq (describes : Describes entries dump) : ofEntries entries = .ok dump := by
  rw [RegisterDump.ofEntries_eq describes.general describes.pc describes.index describes.waits,
    count_of_lookup describes.depth, count_of_lookup describes.delay,
    count_of_lookup describes.sound, Count.ofReading_reading, Count.ofReading_reading,
    Count.ofReading_reading]
  rfl

lemma Describes.summaryOf_eq (describes : Describes entries dump) :
    summaryOf entries = .ok dump.summary := by
  rw [summaryOf, describes.ofEntries_eq]
  rfl

lemma Describes.saysWaiting_eq (describes : Describes entries dump) :
    saysWaiting entries = dump.waiting := by
  obtain ⟨number, known, waits⟩ := Option.map_eq_some_iff.1 describes.waits
  rw [saysWaiting, known, Option.any_some, waits]

/-- All numbers of a complete snapshot are found. -/
lemma IsComplete.exists_values (complete : IsComplete entries) :
    ∃ (v : Vector Int 16) (pc index : Int),
      (∀ x : Fin 16, value? entries (registerName x) = some (v.get x)) ∧
      value? entries "pc" = some pc ∧ value? entries "i" = some index ∧
      (value? entries "awaiting_key").map (· != 0) = some (saysWaiting entries) := by
  let value (name : String) : Int := (value? entries name).getD 0
  have known {name : String} (present : (entries.lookup name).isSome) :
      value? entries name = some (value name) := by
    obtain ⟨reading, found⟩ := Option.isSome_iff_exists.1 present
    simp only [value, value?, found, Option.map_some, Option.getD_some]
  obtain ⟨waits, complete⟩ := List.forall_mem_cons.1 complete
  obtain ⟨general, pc, index, -⟩ := forall_mem_numberNames.1 complete
  refine ⟨Vector.ofFn fun x => value (registerName x), _, _, fun x => ?_, known pc, known index, ?_⟩
  · simp [known (general x)]
  · simp [saysWaiting, known waits]

/-- The counts of a snapshot can be written. -/
def IsWritable (entries : List (String × Reading)) : Prop :=
  ∀ name ∈ countNames, ∀ reading, entries.lookup name = some reading → reading.IsWritable

lemma IsComplete.count_cases (complete : IsComplete entries) {name : String}
    (member : name ∈ countNames) :
    (∃ told : Count, entries.lookup name = some told.reading ∧ count entries name = .ok told) ∨
      count entries name = .error .tooManyDigits ∧
        ∃ reading, entries.lookup name = some reading ∧ ¬reading.IsWritable := by
  have present := complete name (List.mem_cons_of_mem _ (List.mem_append_right _ member))
  obtain ⟨reading, found⟩ := Option.isSome_iff_exists.1 present
  rw [count_of_lookup found]
  by_cases isWritable : reading.IsWritable
  · exact .inl ⟨⟨reading, isWritable⟩, found, Count.ofReading_reading ⟨reading, isWritable⟩⟩
  · exact .inr ⟨Count.ofReading_of_not_isWritable isWritable, reading, found, isWritable⟩

/-- A complete snapshot is that of a dump if its counts can be written. -/
lemma exists_describes (complete : IsComplete entries) (writable : IsWritable entries) :
    ∃ dump, Describes entries dump := by
  have counts : ∀ name ∈ countNames, ∃ told : Count, entries.lookup name = some told.reading := by
    intro name member
    rcases complete.count_cases member with ⟨told, found, -⟩ | ⟨-, reading, found, refused⟩
    · exact ⟨told, found⟩
    · exact absurd (writable name member reading found) refused
  obtain ⟨v, pc, index, general, pc_eq, index_eq, waits⟩ := complete.exists_values
  obtain ⟨⟨depth, depth_eq⟩, ⟨delay, delay_eq⟩, sound, sound_eq⟩ := forall_mem_countNames.1 counts
  exact ⟨{ v, pc, index, depth, delay, sound, waiting := saysWaiting entries },
    ⟨general, pc_eq, index_eq, depth_eq, delay_eq, sound_eq, waits⟩⟩

/-- It has no summary otherwise. -/
lemma ofEntries_of_not_isWritable (complete : IsComplete entries) (refused : ¬IsWritable entries) :
    ofEntries entries = .error .tooManyDigits := by
  obtain ⟨v, pc, index, general, pc_eq, index_eq, waits⟩ := complete.exists_values
  obtain ⟨depth, delay, sound⟩ := forall_mem_countNames.1 fun _ => complete.count_cases
  rw [ofEntries_eq general pc_eq index_eq waits]
  have writable {told : Count} {name : String} (known : entries.lookup name = some told.reading) :
      ∀ reading, entries.lookup name = some reading → reading.IsWritable := by
    intro reading found
    rw [Option.some.inj (found.symm.trans known)]
    exact told.isWritable
  -- In the order in which the counts are written.
  rcases depth with ⟨depth, depth_eq, told⟩ | ⟨told, -⟩
  · rw [told]
    rcases delay with ⟨delay, delay_eq, told⟩ | ⟨told, -⟩
    · rw [told]
      rcases sound with ⟨sound, sound_eq, -⟩ | ⟨told, -⟩
      · have all : IsWritable entries :=
          forall_mem_countNames.2 ⟨writable depth_eq, writable delay_eq, writable sound_eq⟩
        exact absurd all refused
      · rw [told]
        rfl
    · rw [told]
      rfl
  · rw [told]
    rfl

/-- Two dumps are the same if the snapshots that they come from hold the same numbers, and the same
readings where these are counts. -/
lemma Describes.eq_iff (describes : Describes entries dump) (describes' : Describes entries' dump') :
    dump = dump' ↔ (∀ name ∈ numberNames, value? entries name = value? entries' name) ∧
      (∀ name ∈ countNames, entries.lookup name = entries'.lookup name) ∧
        saysWaiting entries = saysWaiting entries' := by
  have value {count : Count} {entries : List (String × Reading)} {name : String}
      (found : entries.lookup name = some count.reading) :
      value? entries name = some count.reading.value := by
    rw [value?, found, Option.map_some]
  rw [forall_mem_numberNames, forall_mem_countNames, describes.saysWaiting_eq,
    describes'.saysWaiting_eq, value describes.depth, value describes.delay, value describes.sound,
    value describes'.depth, value describes'.delay, value describes'.sound]
  simp only [describes.general, describes.pc, describes.index, describes.depth, describes.delay,
    describes.sound, describes'.general, describes'.pc, describes'.index, describes'.depth,
    describes'.delay, describes'.sound, Option.some_inj]
  constructor
  · rintro rfl
    exact ⟨⟨fun _ => rfl, rfl, rfl, rfl, rfl, rfl⟩, ⟨rfl, rfl, rfl⟩, rfl⟩
  · rintro ⟨⟨general, pc, index, -⟩, ⟨depth, delay, sound⟩, waits⟩
    have v : dump.v = dump'.v := Vector.ext fun x small => general ⟨x, small⟩
    rw [← Count.eq_iff] at depth delay sound
    cases dump
    cases dump'
    simp_all

/-- The counts of a snapshot are plain numbers that can be written. -/
def HasPlainCounts (entries : List (String × Reading)) : Prop :=
  ∀ name ∈ countNames, ∃ number, entries.lookup name = some (.number number) ∧ IsShort number

lemma HasPlainCounts.isWritable (plain : HasPlainCounts entries) : IsWritable entries := by
  intro name member reading found
  obtain ⟨number, known, short⟩ := plain name member
  rw [Option.some.inj (found.symm.trans known)]
  exact short

/-- Plain numbers are the same readings if they are equal. -/
lemma HasPlainCounts.lookup_eq (plain : HasPlainCounts entries) (plain' : HasPlainCounts entries')
    {name : String} (member : name ∈ countNames) (same : value? entries name = value? entries' name) :
    entries.lookup name = entries'.lookup name := by
  obtain ⟨number, known, -⟩ := plain name member
  obtain ⟨number', known', -⟩ := plain' name member
  rw [value?, value?, known, known'] at same
  rw [known, known']
  exact congrArg (some ∘ Reading.number) (Option.some.inj same)

/-! ## The registers of a machine -/

/-- A text of so many hexadecimal digits that stand for a number. -/
structure ShowsHex (places : Nat) (text : String) (number : Int) : Prop where
  length : text.length = places
  digits : ∀ c ∈ text.toList, c ∈ hexDigits
  value : Numeral.read 16 text.toList = number

lemma showsHex_hex {places number : Nat} (positive : 0 < places) (fits : number < 16 ^ places) :
    ShowsHex places (hex places number) number where
  length := length_hex positive fits
  digits := by
    rw [hex, String.toList_ofList, signed_of_nonneg (Int.natCast_nonneg number)]
    exact fun c member => mem_hexDigits_of_mem_padded (by decide) (by decide) member
  value := by
    rw [hex, String.toList_ofList, read_signed (by decide) (by decide)]

/-- An entry is found by its name if no other has that name. -/
lemma lookup_of_mem {name : String} {reading : Reading} (nodup : (entries.map Prod.fst).Nodup)
    (member : (name, reading) ∈ entries) : entries.lookup name = some reading := by
  induction entries with
  | nil => cases member
  | cons entry rest ih =>
    obtain ⟨fresh, nodup⟩ := List.nodup_cons.1 nodup
    rcases List.mem_cons.1 member with rfl | later
    · exact List.lookup_cons_self
    · have other : name ≠ entry.1 := fun same => fresh (same ▸ List.mem_map_of_mem later)
      rw [List.lookup_cons, beq_eq_false_iff_ne.2 other]
      exact ih nodup later

lemma nodup_names (dump : RegisterDump) : (dump.entries.map Prod.fst).Nodup := by
  have names : dump.entries.map Prod.fst =
      (List.finRange 16).map registerName ++ ["i", "pc", "sp", "dt", "st", "awaiting_key"] := by
    simp [RegisterDump.entries]
  rw [names]
  decide +kernel

lemma describes_entries (dump : RegisterDump) : Describes dump.entries dump := by
  have found {name : String} {reading : Reading} (member : (name, reading) ∈ dump.entries) :
      dump.entries.lookup name = some reading := lookup_of_mem dump.nodup_names member
  have told {name : String} {number : Int} (member : (name, .number number) ∈ dump.entries) :
      value? dump.entries name = some number := by
    rw [value?, found member]
    rfl
  have remark : ("awaiting_key", .truth dump.waiting) ∈ dump.entries := by
    simp [RegisterDump.entries]
  exact {
    general := fun x => told
      (List.mem_append_left _ (List.mem_map_of_mem (List.mem_finRange x)))
    pc := told (by simp [RegisterDump.entries])
    index := told (by simp [RegisterDump.entries])
    depth := found (by simp [RegisterDump.entries])
    delay := found (by simp [RegisterDump.entries])
    sound := found (by simp [RegisterDump.entries])
    waits := by
      rw [value?, found remark]
      cases dump.waiting <;> rfl }

end RegisterDump

/-- The registers as named numbers, the general ones numbered in the order of their list. -/
def Raw.Machine.registers (machine : Raw.Machine) : List (String × Reading) :=
  (machine.v.zipIdx.map fun (number, x) => ("v" ++ (hex 1 x).toLower, .number number)) ++
    [("i", .number machine.index), ("pc", .number machine.pc), ("sp", .number machine.sp),
      ("dt", .number machine.delay), ("st", .number machine.sound),
      ("awaiting_key", .truth machine.awaitsKey)]

lemma Machine.registers_toRaw (machine : Machine) :
    machine.toRaw.registers = machine.processor.dump.entries := by
  have general : (machine.toRaw.v.zipIdx.map fun (number, x) =>
      ("v" ++ (hex 1 x).toLower, Reading.number number)) =
      (List.finRange 16).map fun x =>
        (RegisterDump.registerName x, .number (machine.processor.dump.v.get x)) := by
    rw [Machine.toRaw_v]
    apply List.ext_getElem
    · simp [Raw.numbers]
    · intro x _ _
      simp [Raw.numbers, Raw.number, RegisterDump.registerName, Processor.dump]
      rfl
  unfold Raw.Machine.registers
  rw [general]
  rfl

namespace RegisterDump

/-! ## Summaries -/

/-- Nothing is lost in a summary of registers. Whatever integers two snapshots hold, they have the same
summary just if all 21 numbers are equal and both or neither wait for a key, provided that those in
decimal are plain numbers that can be written. A complete snapshot is refused just if one of these has
too many digits. The registers of every well-formed machine have a summary. It shows each general
register in two hexadecimal digits in its first line, and the program counter and the index register in
four in its second. -/
theorem summary_is_lossless :
    (∀ entries entries', IsComplete entries → IsComplete entries' → HasPlainCounts entries →
      HasPlainCounts entries' →
      ∃ text text', summaryOf entries = .ok text ∧ summaryOf entries' = .ok text' ∧
        (text = text' ↔ (∀ name ∈ numberNames, value? entries name = value? entries' name) ∧
          saysWaiting entries = saysWaiting entries')) ∧
    (∀ entries, IsComplete entries →
      (IsWritable entries → ∃ text, summaryOf entries = .ok text) ∧
      (¬IsWritable entries → summaryOf entries = .error .tooManyDigits)) ∧
    (∀ machine : Machine, machine.toRaw.registers = machine.processor.dump.entries) ∧
    ∀ machine : Raw.Machine, machine.WellFormed →
      ∃ (v : Fin 16 → String) (pc index : String),
        summaryOf machine.registers = .ok
          (" ".intercalate ((List.finRange 16).map fun x => "V" ++ hex 1 x.val ++ "=" ++ v x) ++ "\n" ++
            ("PC=$" ++ pc ++ " I=$" ++ index ++ " SP=" ++ decimal machine.sp ++
              " DT=" ++ decimal machine.delay ++ " ST=" ++ decimal machine.sound ++
              if machine.awaitsKey then " (waiting for key)" else "")) ∧
        (∀ x, ∃ number, machine.v[x.val]? = some number ∧ ShowsHex 2 (v x) number) ∧
        ShowsHex 4 pc machine.pc ∧ ShowsHex 4 index machine.index := by
  refine ⟨fun entries entries' complete complete' plain plain' => ?_, fun entries complete => ?_,
    Machine.registers_toRaw, fun raw wellFormed => ?_⟩
  · obtain ⟨dump, describes⟩ := exists_describes complete plain.isWritable
    obtain ⟨dump', describes'⟩ := exists_describes complete' plain'.isWritable
    refine ⟨dump.summary, dump'.summary, describes.summaryOf_eq, describes'.summaryOf_eq, ?_⟩
    rw [summary_inj, describes.eq_iff describes']
    refine and_congr_right fun same => and_iff_right_of_imp fun _ name member => ?_
    exact plain.lookup_eq plain' member (same name (List.mem_append_right _ member))
  · constructor
    · intro writable
      obtain ⟨dump, describes⟩ := exists_describes complete writable
      exact ⟨_, describes.summaryOf_eq⟩
    · intro refused
      rw [summaryOf, ofEntries_of_not_isWritable complete refused]
      rfl
  · -- The registers of a well-formed machine are a dump, and the numbers of a dump fit in their places.
    obtain ⟨machine, rfl⟩ := Raw.Machine.wellFormed_iff.1 wellFormed
    refine ⟨fun x => hex 2 (machine.processor.dump.v.get x), hex 4 machine.processor.pc.toNat,
      hex 4 machine.processor.index.toNat, ?_, ?_, ?_, ?_⟩
    · rw [Machine.registers_toRaw, (describes_entries _).summaryOf_eq]
      exact congrArg Except.ok (summary_eq _)
    · intro x
      have shown : machine.processor.dump.v.get x = ((machine.processor.v.get x).toNat : Int) := by
        simp [Processor.dump]
      dsimp only
      rw [shown]
      exact ⟨_, Raw.getElem?_numbers x.isLt, showsHex_hex (by decide) (UInt8.toNat_lt _)⟩
    · exact showsHex_hex (by decide) (UInt16.toNat_lt _)
    · exact showsHex_hex (by decide) (UInt16.toNat_lt _)

/-- A snapshot of zeros, but for the depth of the stack and the delay timer. -/
def zeros (depth delay : Reading) : List (String × Reading) :=
  ((List.finRange 16).map fun x => (registerName x, .number 0)) ++
    [("pc", .number 0), ("i", .number 0), ("sp", depth), ("dt", delay), ("st", .number 0),
      ("awaiting_key", .truth false)]

lemma nodup_zeros (depth delay : Reading) : ((zeros depth delay).map Prod.fst).Nodup := by
  have names : (zeros depth delay).map Prod.fst =
      (List.finRange 16).map registerName ++ ["pc", "i", "sp", "dt", "st", "awaiting_key"] := by
    simp [zeros]
  rw [names]
  decide +kernel

lemma lookup_zeros (depth delay : Reading) :
    (zeros depth delay).lookup "sp" = some depth ∧ (zeros depth delay).lookup "dt" = some delay ∧
      (zeros depth delay).lookup "st" = some (.number 0) := by
  have found {name : String} {reading : Reading} (member : (name, reading) ∈ zeros depth delay) :=
    lookup_of_mem (nodup_zeros depth delay) member
  exact ⟨found (by simp [zeros]), found (by simp [zeros]), found (by simp [zeros])⟩

lemma isWritable_zeros {depth delay : Reading} (writable : depth.IsWritable)
    (writable' : delay.IsWritable) : IsWritable (zeros depth delay) := by
  obtain ⟨depth_eq, delay_eq, sound_eq⟩ := lookup_zeros depth delay
  unfold IsWritable
  rw [forall_mem_countNames, depth_eq, delay_eq, sound_eq]
  simp only [Option.some.injEq, forall_eq']
  exact ⟨writable, writable', isShort_of_lt (by decide)⟩

lemma hasPlainCounts_zeros {depth delay : Int} (short : IsShort depth) (short' : IsShort delay) :
    HasPlainCounts (zeros (.number depth) (.number delay)) := by
  obtain ⟨depth_eq, delay_eq, sound_eq⟩ := lookup_zeros (.number depth) (.number delay)
  exact forall_mem_countNames.2 ⟨⟨depth, depth_eq, short⟩, ⟨delay, delay_eq, short'⟩,
    0, sound_eq, isShort_of_lt (by decide)⟩

/-- A digit more in one number and one less in the next do not make up for each other, and a machine
that was just turned on has a summary. -/
theorem summary_is_lossless_between_digits :
    (∃ text text', summaryOf (zeros (.number 1) (.number 12)) = .ok text ∧
      summaryOf (zeros (.number 11) (.number 2)) = .ok text' ∧ text ≠ text') ∧
    ∃ text, summaryOf (Machine.powerOn .empty (.ofStream fun _ => 0) false).toRaw.registers =
      .ok text := by
  have complete : IsComplete (zeros (.number 1) (.number 12)) ∧
      IsComplete (zeros (.number 11) (.number 2)) := by
    unfold IsComplete
    decide +kernel
  constructor
  · obtain ⟨text, text', known, known', same_iff⟩ :=
      summary_is_lossless.1 _ _ complete.1 complete.2
        (hasPlainCounts_zeros (by decide +kernel) (by decide +kernel))
        (hasPlainCounts_zeros (by decide +kernel) (by decide +kernel))
    refine ⟨text, text', known, known', fun same => ?_⟩
    exact absurd ((same_iff.1 same).1 "sp" (by decide +kernel)) (by decide +kernel)
  · obtain ⟨v, pc, index, known, -⟩ := summary_is_lossless.2.2.2 _ (Raw.wellFormed_toRaw _)
    exact ⟨_, known⟩

/-- Not every snapshot of integers has a summary, and not all that have one can be told from it by their
integers: one with 4301 digits in decimal is refused, and a truth value is not written like the number
that it is. -/
theorem summary_refuses_long_counts :
    (IsComplete (zeros (.number (10 ^ 4300)) (.number 0)) ∧
      summaryOf (zeros (.number (10 ^ 4300)) (.number 0)) = .error .tooManyDigits) ∧
    let plain := zeros (.number 1) (.number 0)
    let truth := zeros (.truth true) (.number 0)
    IsComplete plain ∧ IsComplete truth ∧
      (∀ name ∈ numberNames, value? plain name = value? truth name) ∧
      saysWaiting plain = saysWaiting truth ∧
      ∃ text text', summaryOf plain = .ok text ∧ summaryOf truth = .ok text' ∧ text ≠ text' := by
  have complete : IsComplete (zeros (.number (10 ^ 4300)) (.number 0)) ∧
      IsComplete (zeros (.number 1) (.number 0)) ∧ IsComplete (zeros (.truth true) (.number 0)) := by
    unfold IsComplete
    decide +kernel
  obtain ⟨long, plain, truth⟩ := complete
  refine ⟨⟨long, ?_⟩, plain, truth, by decide +kernel, by decide +kernel, ?_⟩
  · have refused : ¬IsWritable (zeros (.number (10 ^ 4300)) (.number 0)) := fun writable =>
      absurd (writable "sp" (by decide) _ (lookup_zeros _ _).1) (by decide +kernel)
    rw [summaryOf, ofEntries_of_not_isWritable long refused]
    rfl
  · obtain ⟨dump, describes⟩ := exists_describes plain
      (isWritable_zeros (by decide +kernel) (by decide +kernel))
    obtain ⟨dump', describes'⟩ := exists_describes truth
      (isWritable_zeros trivial (by decide +kernel))
    refine ⟨_, _, describes.summaryOf_eq, describes'.summaryOf_eq, fun same => ?_⟩
    obtain ⟨-, counts, -⟩ := (describes.eq_iff describes').1 (summary_inj.1 same)
    have depths := counts "sp" (by decide)
    rw [(lookup_zeros _ _).1, (lookup_zeros _ _).1] at depths
    cases depths

end RegisterDump

end Chip8
