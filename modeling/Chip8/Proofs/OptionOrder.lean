import Chip8.CommandLine.Invocation
import Mathlib.Data.List.Basic
import Mathlib.Data.Set.List

/-!
# The order of options

Each option sets a part of the invocation of its own (`get_put_of_ne`), so reading the options
amounts to reading each parameter by itself (`setAll_standard`), in whatever order they come. Only
of keys and breakpoints more than the last text counts, so arguments that are rearranged ask for the
same run, but for the order of keys and breakpoints and how often they are given
(`Request.ofArguments_of_isRearranged`).
-/

namespace Chip8

/-- Whether all the texts given to a parameter count, and not only the last. -/
def Parameter.isRepeatable : Parameter → Bool
  | keys => true
  | breakpoints => true
  | _ => false

/-- The kind of value that a parameter sets. -/
abbrev Parameter.Meaning : Parameter → Type
  | rom => String
  | cycles => Nat
  | keys => List Key
  | wrap => Bool
  | seed => Option Int
  | breakpoints => List (Fin 4096)
  | screen => Bool
  | picture => Option String
  | scale => Nat
  | verbose => Bool
  | version => Unit
  | help => Unit

/-! ## Parts of an invocation -/

namespace Invocation

variable {files : String → Entry} {arguments : Arguments} {before after : Invocation}
  {parameters : List Parameter}

/-- What an invocation has for a parameter. -/
def get (invocation : Invocation) : (parameter : Parameter) → parameter.Meaning
  | .rom => invocation.rom
  | .cycles => invocation.cycles
  | .keys => invocation.keys
  | .wrap => invocation.wrap
  | .seed => invocation.seed
  | .breakpoints => invocation.breakpoints
  | .screen => invocation.showScreen
  | .picture => invocation.picture
  | .scale => invocation.scale
  | .verbose => invocation.verbose
  | .version => ()
  | .help => ()

/-- An invocation with another value for a parameter. -/
def put (invocation : Invocation) : (parameter : Parameter) → parameter.Meaning → Invocation
  | .rom, rom => { invocation with rom }
  | .cycles, cycles => { invocation with cycles }
  | .keys, keys => { invocation with keys }
  | .wrap, wrap => { invocation with wrap }
  | .seed, seed => { invocation with seed }
  | .breakpoints, breakpoints => { invocation with breakpoints }
  | .screen, showScreen => { invocation with showScreen }
  | .picture, picture => { invocation with picture }
  | .scale, scale => { invocation with scale }
  | .verbose, verbose => { invocation with verbose }
  | .version, _ => invocation
  | .help, _ => invocation

@[simp] lemma get_put (invocation : Invocation) (parameter : Parameter)
    (value : parameter.Meaning) : (invocation.put parameter value).get parameter = value := by
  cases parameter <;> rfl

lemma get_put_of_ne {parameter other : Parameter} (apart : other ≠ parameter)
    (invocation : Invocation) (value : parameter.Meaning) :
    (invocation.put parameter value).get other = invocation.get other := by
  cases parameter <;> cases other <;> first | rfl | exact absurd rfl apart

lemma eq_of_get (same : ∀ parameter, before.get parameter = after.get parameter) :
    before = after := by
  obtain ⟨_, _, _, _, _, _, _, _, _, _⟩ := before
  obtain ⟨_, _, _, _, _, _, _, _, _, _⟩ := after
  congr
  exacts [same .rom, same .cycles, same .keys, same .wrap, same .seed, same .breakpoints,
    same .screen, same .picture, same .scale, same .verbose]

/-- What the arguments say about a parameter, if they leave the given value where they do not say
anything. -/
def read (files : String → Entry) (arguments : Arguments) :
    (parameter : Parameter) → parameter.Meaning → Except ValueError parameter.Meaning
  | .rom, rom => .ok rom
  | .cycles, cycles => readLast arguments .cycles cycles (Value.integerFrom 0)
  | .keys, _ => (arguments.texts .keys).mapM Value.key
  | .wrap, wrap => .ok (arguments.isOn .wrap wrap)
  | .seed, seed => readLast arguments .seed seed fun text => some <$> Value.integer text
  | .breakpoints, _ => (arguments.texts .breakpoints).mapM Value.address
  | .screen, showScreen => .ok (arguments.isOn .screen showScreen)
  | .picture, picture => readLast arguments .picture picture (readPicture files)
  | .scale, scale => readLast arguments .scale scale (Value.integerFrom 1)
  | .verbose, verbose => .ok (arguments.isOn .verbose verbose)
  | .version, _ => .ok ()
  | .help, _ => .ok ()

/-- An option sets what it says and nothing else. -/
lemma set_eq (parameter : Parameter) :
    before.set files arguments parameter =
      (read files arguments parameter (before.get parameter)).map (before.put parameter) := by
  cases parameter <;> rfl

/-- Options are read by reading each of them by itself. -/
theorem setAll_eq_ok_iff (nodup : parameters.Nodup) :
    setAll files arguments before parameters = .ok after ↔
      (∀ parameter ∈ parameters,
        read files arguments parameter (before.get parameter) = .ok (after.get parameter)) ∧
      ∀ parameter ∉ parameters, after.get parameter = before.get parameter := by
  induction parameters generalizing before with
  | nil =>
    rw [setAll, Except.ok.injEq]
    refine ⟨?_, fun same => (eq_of_get fun parameter => same.2 parameter List.not_mem_nil).symm⟩
    rintro rfl
    exact ⟨fun _ member => absurd member List.not_mem_nil, fun _ _ => rfl⟩
  | cons first rest ih =>
    obtain ⟨fresh, nodup⟩ := List.nodup_cons.1 nodup
    have elsewhere {other : Parameter} (member : other ∈ rest) : other ≠ first := by
      rintro rfl
      exact fresh member
    rw [setAll, set_eq]
    cases result : read files arguments first (before.get first) with
    | error error =>
      refine ⟨nofun, fun reads => ?_⟩
      have refused := reads.1 first List.mem_cons_self
      rw [result] at refused
      cases refused
    | ok value =>
      show setAll files arguments (before.put first value) rest = .ok after ↔ _
      rw [ih nodup, List.forall_mem_cons, result, Except.ok.injEq]
      constructor
      · rintro ⟨reads, keeps⟩
        have told := keeps first fresh
        rw [get_put] at told
        refine ⟨⟨told.symm, fun other member => ?_⟩, fun other absent => ?_⟩
        · rw [← reads other member, get_put_of_ne (elsewhere member)]
        · obtain ⟨apart, absent⟩ := not_or.1 (List.mem_cons.not.1 absent)
          rw [keeps other absent, get_put_of_ne apart]
      · rintro ⟨⟨told, reads⟩, keeps⟩
        refine ⟨fun other member => ?_, fun other absent => ?_⟩
        · rw [get_put_of_ne (elsewhere member), reads other member]
        · by_cases same : other = first
          · subst same
            rw [get_put, told]
          · rw [get_put_of_ne same, keeps other (List.mem_cons.not.2 (not_or.2 ⟨same, absent⟩))]

end Invocation

/-! ## Rearranged arguments -/

namespace Arguments

variable {arguments first second : Arguments} {parameter : Parameter}

/-- The same options and the same other arguments, but for the order of keys and breakpoints and how
often they are given. -/
structure IsRearranged (first second : Arguments) : Prop where
  options : ∀ option, option ∈ first.options ↔ option ∈ second.options
  single : first.options.filter (!·.parameter.isRepeatable) =
    second.options.filter (!·.parameter.isRepeatable)
  others : first.others = second.others

lemma mem_parameters :
    parameter ∈ arguments.parameters ↔
      ∃ option ∈ arguments.options, option.parameter = parameter := by
  unfold parameters
  rw [List.mem_eraseDups, List.mem_map]

lemma nodup_eraseDups {α : Type} [BEq α] [LawfulBEq α] (values : List α) :
    values.eraseDups.Nodup := by
  induction length : values.length using Nat.strong_induction_on generalizing values with
  | h size ih =>
    cases values with
    | nil => exact List.nodup_nil
    | cons value rest =>
      rw [List.eraseDups_cons, List.nodup_cons, List.mem_eraseDups, List.mem_filter]
      have shorter : (rest.filter fun other => !other == value).length < size := by
        have := List.length_filter_le (fun other => !other == value) rest
        rw [List.length_cons] at length
        omega
      exact ⟨by simp, ih _ shorter _ rfl⟩

lemma nodup_parameters (arguments : Arguments) : arguments.parameters.Nodup := nodup_eraseDups _

/-- The text that an option gives to a parameter. -/
def textFor (parameter : Parameter) : Occurrence → Option String
  | .valued other text => if other = parameter then some text else none
  | .switch _ _ => none

/-- The way in which an option switches a parameter. -/
def switchFor (parameter : Parameter) : Occurrence → Option Bool
  | .switch other on => if other = parameter then some on else none
  | .valued _ _ => none

lemma textFor_of_ne {option : Occurrence} (apart : option.parameter ≠ parameter) :
    textFor parameter option = none := by
  cases option with
  | switch other on => rfl
  | valued other text => exact if_neg apart

lemma switchFor_of_ne {option : Occurrence} (apart : option.parameter ≠ parameter) :
    switchFor parameter option = none := by
  cases option with
  | switch other on => exact if_neg apart
  | valued other text => rfl

lemma texts_eq (arguments : Arguments) (parameter : Parameter) :
    arguments.texts parameter = arguments.options.filterMap (textFor parameter) := rfl

lemma isOn_eq (arguments : Arguments) (parameter : Parameter) (default : Bool) :
    arguments.isOn parameter default =
      (arguments.options.filterMap (switchFor parameter)).getLast?.getD default := rfl

lemma texts_of_notMem (absent : parameter ∉ arguments.parameters) :
    arguments.texts parameter = [] := by
  rw [texts_eq, List.filterMap_eq_nil_iff]
  exact fun option member =>
    textFor_of_ne fun same => absent (mem_parameters.2 ⟨option, member, same⟩)

lemma isOn_of_notMem (absent : parameter ∉ arguments.parameters) (default : Bool) :
    arguments.isOn parameter default = default := by
  have none : arguments.options.filterMap (switchFor parameter) = [] :=
    List.filterMap_eq_nil_iff.2 fun option member =>
      switchFor_of_ne fun same => absent (mem_parameters.2 ⟨option, member, same⟩)
  rw [isOn_eq, none]
  rfl

namespace IsRearranged

lemma mem_parameters (same : first.IsRearranged second) :
    parameter ∈ first.parameters ↔ parameter ∈ second.parameters := by
  simp only [Arguments.mem_parameters, same.options]

lemma mem_texts (same : first.IsRearranged second) {text : String} :
    text ∈ first.texts parameter ↔ text ∈ second.texts parameter := by
  simp only [texts_eq, List.mem_filterMap, same.options]

/-- What is found for a parameter that is not repeatable does not depend on the options for those
that are. -/
lemma filterMap_eq {α : Type} (same : first.IsRearranged second) {find : Occurrence → Option α}
    (found : ∀ {option}, option.parameter ≠ parameter → find option = none)
    (single : parameter.isRepeatable = false) :
    first.options.filterMap find = second.options.filterMap find := by
  have skip : (fun option : Occurrence =>
      if (!option.parameter.isRepeatable) = true then find option else none) = find := by
    funext option
    cases repeatable : option.parameter.isRepeatable with
    | false => rfl
    | true =>
      refine (found ?_).symm
      rintro rfl
      rw [single] at repeatable
      cases repeatable
  rw [← skip, ← List.filterMap_filter, ← List.filterMap_filter, same.single]

lemma texts_eq (same : first.IsRearranged second) (single : parameter.isRepeatable = false) :
    first.texts parameter = second.texts parameter :=
  same.filterMap_eq textFor_of_ne single

lemma isOn_eq (same : first.IsRearranged second) (single : parameter.isRepeatable = false)
    (default : Bool) : first.isOn parameter default = second.isOn parameter default := by
  rw [Arguments.isOn_eq, Arguments.isOn_eq, same.filterMap_eq switchFor_of_ne single]

end IsRearranged

end Arguments

/-! ## Reading in another order -/

section Texts

variable {ε α β : Type} {read : α → Except ε β} {texts others : List α} {values : List β}

lemma ok_injective : Function.Injective (Except.ok : β → Except ε β) := fun _ _ => Except.ok.inj

/-- Reading succeeds with some values if each text means the value in its place. -/
lemma mapM_eq_ok_iff : texts.mapM read = .ok values ↔ texts.map read = values.map .ok := by
  induction texts generalizing values with
  | nil => cases values <;> simp [pure, Except.pure]
  | cons text rest ih =>
    rw [List.mapM_cons, List.map_cons]
    cases read text with
    | error error => cases values <;> exact ⟨nofun, nofun⟩
    | ok value =>
      cases values with
      | nil => cases rest.mapM read <;> exact ⟨nofun, nofun⟩
      | cons expected others =>
        rw [List.map_cons, List.cons.injEq, ← ih]
        cases rest.mapM read with
        | error error => exact ⟨nofun, fun both => nomatch both.2⟩
        | ok values =>
          show Except.ok (value :: values) = Except.ok (expected :: others) ↔ _
          simp only [Except.ok.injEq, List.cons.injEq]

lemma mem_iff_of_mapM (known : texts.mapM read = .ok values) {value : β} :
    value ∈ values ↔ ∃ text ∈ texts, read text = .ok value := by
  rw [mapM_eq_ok_iff] at known
  rw [← List.mem_map, known, List.mem_map_of_injective ok_injective]

/-- The same texts in another order and another number mean the same values in another order and
another number. -/
lemma exists_mapM_of_mem_iff (same : ∀ {text}, text ∈ texts ↔ text ∈ others)
    (known : texts.mapM read = .ok values) :
    ∃ found, others.mapM read = .ok found ∧ ∀ value, value ∈ found ↔ value ∈ values := by
  have readable : others.map read ∈ Set.range (List.map (Except.ok : β → Except ε β)) := by
    rw [Set.range_list_map]
    intro result member
    obtain ⟨text, given, rfl⟩ := List.mem_map.1 member
    have known := mapM_eq_ok_iff.1 known ▸ List.mem_map_of_mem (same.2 given)
    obtain ⟨value, -, equal⟩ := List.mem_map.1 known
    exact ⟨value, equal⟩
  obtain ⟨found, equal⟩ := readable
  have knownToo := mapM_eq_ok_iff.2 equal.symm
  refine ⟨found, knownToo, fun value => ?_⟩
  simp only [mem_iff_of_mapM knownToo, mem_iff_of_mapM known, same]

end Texts

namespace Invocation

variable {files : String → Entry} {arguments first second : Arguments} {invocation : Invocation}
  {parameter : Parameter}

/-- The invocation that stands where the arguments do not say anything. -/
def standard : Invocation := { rom := "" }

lemma readLast_of_notMem {α : Type} (absent : parameter ∉ arguments.parameters) (default : α)
    (read : String → Except ValueError α) :
    readLast arguments parameter default read = .ok default := by
  rw [readLast, Arguments.texts_of_notMem absent]
  rfl

lemma read_of_notMem (absent : parameter ∉ arguments.parameters) :
    read files arguments parameter (standard.get parameter) = .ok (standard.get parameter) := by
  have none := Arguments.texts_of_notMem absent
  have off := Arguments.isOn_of_notMem absent
  cases parameter
  case cycles | seed | picture | scale => exact readLast_of_notMem absent _ _
  case keys | breakpoints => rw [read, none]; rfl
  case wrap | screen | verbose => exact congrArg Except.ok (off _)
  all_goals rfl

lemma setAll_standard :
    setAll files arguments standard arguments.parameters = .ok invocation ↔
      ∀ parameter, read files arguments parameter (standard.get parameter) =
        .ok (invocation.get parameter) := by
  rw [setAll_eq_ok_iff arguments.nodup_parameters]
  refine ⟨fun ⟨reads, keeps⟩ parameter => ?_,
    fun reads => ⟨fun parameter _ => reads parameter, fun parameter absent => ?_⟩⟩
  · by_cases member : parameter ∈ arguments.parameters
    · exact reads parameter member
    · rw [keeps parameter member, read_of_notMem member]
  · have silent := reads parameter
    rw [read_of_notMem absent, Except.ok.injEq] at silent
    exact silent.symm

/-- Options say nothing about the image. -/
lemma setAll_standard_eq_put :
    setAll files arguments standard arguments.parameters = .ok (invocation.put .rom "") ↔
      ∀ parameter ≠ .rom, read files arguments parameter (standard.get parameter) =
        .ok (invocation.get parameter) := by
  rw [setAll_standard]
  constructor
  · intro reads parameter other
    rw [reads, get_put_of_ne other]
  · intro reads parameter
    by_cases same : parameter = .rom
    · subst same
      rfl
    · rw [reads parameter same, get_put_of_ne same]

/-- What is said about a parameter that is not repeatable does not depend on the options for those
that are. -/
lemma read_of_isRearranged (same : first.IsRearranged second)
    (single : parameter.isRepeatable = false) (default : parameter.Meaning) :
    read files second parameter default = read files first parameter default := by
  have texts := same.texts_eq single
  have on := same.isOn_eq single
  cases parameter
  case keys | breakpoints => cases single
  case cycles | seed | picture | scale => simp only [read, readLast, texts]
  case wrap | screen | verbose => simp only [read, on]
  all_goals rfl

end Invocation

namespace Request

variable {files : String → Entry} {arguments first second : Arguments} {invocation : Invocation}

/-- A run is asked for by arguments that do not ask for the version or for help, that name one
image, and whose options can all be read. -/
lemma ofArguments_eq_run_iff :
    ofArguments files arguments = .ok (.run invocation) ↔
      (∀ parameter ∈ arguments.parameters, parameter ≠ .version ∧ parameter ≠ .help) ∧
      (∃ path, arguments.others = [path] ∧
        Invocation.readRom files path = .ok invocation.rom) ∧
      ∀ parameter ≠ .rom,
        Invocation.read files arguments parameter (Invocation.standard.get parameter) =
          .ok (invocation.get parameter) := by
  rw [← Invocation.setAll_standard_eq_put]
  unfold ofArguments
  cases asked : arguments.parameters.find? fun parameter =>
      parameter = .version ∨ parameter = .help with
  | some parameter =>
    have member := List.mem_of_find?_eq_some asked
    have other : parameter = .version ∨ parameter = .help := by simpa using List.find?_some asked
    rcases other with rfl | rfl
    · simp only [asked]
      exact ⟨nofun, fun runs => absurd rfl (runs.1 _ member).1⟩
    · simp only [asked]
      exact ⟨nofun, fun runs => absurd rfl (runs.1 _ member).2⟩
  | none =>
    have runs : ∀ parameter ∈ arguments.parameters, parameter ≠ .version ∧ parameter ≠ .help :=
      fun parameter member => by simpa using List.find?_eq_none.1 asked parameter member
    rw [and_iff_right runs]
    simp only [asked]
    show (Invocation.setAll files arguments Invocation.standard arguments.parameters).bind _ = _ ↔ _
    cases set : Invocation.setAll files arguments Invocation.standard arguments.parameters with
    | error error => exact ⟨nofun, fun both => nomatch both.2⟩
    | ok options =>
      have noRom : options.rom = "" :=
        (Except.ok.inj (Invocation.setAll_standard.1 set .rom)).symm
      constructor
      · intro asked
        cases others : arguments.others with
        | nil =>
          rw [others] at asked
          cases asked
        | cons path rest =>
          simp only [others, Except.bind] at asked
          cases found : Invocation.readRom files path with
          | error error =>
            rw [found] at asked
            cases asked
          | ok rom =>
            rw [found] at asked
            cases rest with
            | cons second rest => cases asked
            | nil =>
              cases asked
              refine ⟨⟨path, rfl, found⟩, congrArg Except.ok ?_⟩
              rw [← noRom]
              rfl
      · rintro ⟨⟨path, others, found⟩, options⟩
        obtain rfl := Except.ok.inj options
        simp only [others, found, Except.bind]
        rfl

/-- Arguments that are rearranged ask for the same run, but for the order of keys and breakpoints
and how often they are given. -/
theorem ofArguments_of_isRearranged (same : first.IsRearranged second)
    (asked : ofArguments files first = .ok (.run invocation)) :
    ∃ keys breakpoints,
      ofArguments files second = .ok (.run { invocation with keys, breakpoints }) ∧
      (∀ key, key ∈ keys ↔ key ∈ invocation.keys) ∧
      ∀ address, address ∈ breakpoints ↔ address ∈ invocation.breakpoints := by
  obtain ⟨runs, ⟨path, named, rom⟩, reads⟩ := ofArguments_eq_run_iff.1 asked
  obtain ⟨keys, keysRead, sameKeys⟩ :=
    exists_mapM_of_mem_iff same.mem_texts (reads .keys (by decide))
  obtain ⟨breakpoints, breakpointsRead, sameBreakpoints⟩ :=
    exists_mapM_of_mem_iff same.mem_texts (reads .breakpoints (by decide))
  refine ⟨keys, breakpoints, ofArguments_eq_run_iff.2 ⟨fun parameter member => ?_,
    ⟨path, same.others ▸ named, rom⟩, fun parameter other => ?_⟩, sameKeys, sameBreakpoints⟩
  · exact runs parameter (same.mem_parameters.2 member)
  · cases repeatable : parameter.isRepeatable with
    | false =>
      rw [Invocation.read_of_isRearranged same repeatable, reads parameter other]
      cases parameter <;> first | rfl | cases repeatable
    | true =>
      cases parameter
      case keys => exact keysRead
      case breakpoints => exact breakpointsRead
      all_goals cases repeatable

end Request

end Chip8
