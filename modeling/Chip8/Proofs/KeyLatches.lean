import Chip8.Proofs.Keypads
import Chip8.Proofs.OptionOrder
import Chip8.Proofs.Raw.Operations

/-!
# Two ways to put keys down

A host can name all keys that are to be down at once, or press them one after the other on a keypad with
all keys up. Both ways look the names up in the same order, so they refuse the same lists for the same
reason, and both leave a key down just if some name refers to it (`Keypad.latches_agree`). The machine of
plain lists does so with a list of sixteen states, in which it replaces one entry after the other.
-/

namespace Chip8

variable {references : List KeyReference} {keypad : Keypad} {keys : List Key} {key : Key}
  {misuse : Misuse}

/-- A truth value in the place of a code is the code one or zero. -/
def KeyReference.ofBool (value : Bool) : KeyReference := .code value.toInt

/-! ## Naming keys -/

namespace Keypad

/-- Naming all keys at once comes to pressing them. -/
lemma ofReferences_eq (references : List KeyReference) :
    ofReferences references = (references.mapM KeyReference.resolve).map released.pressKeys := by
  unfold ofReferences
  cases references.mapM KeyReference.resolve with
  | error misuse => rfl
  | ok keys =>
    refine congrArg Except.ok (eq_of_isDown fun key => ?_)
    rw [isDown_pressKeys, isDown_released, Bool.or_false]
    exact Vector.getElem_ofFn key.isLt

/-- Pressing keys by their names is looking all names up, and then pressing the keys. -/
lemma foldlM_press (keypad : Keypad) (references : List KeyReference) :
    references.foldlM press keypad =
      (references.mapM KeyReference.resolve).map keypad.pressKeys := by
  induction references generalizing keypad with
  | nil => rfl
  | cons reference rest ih =>
    rw [List.foldlM_cons, List.mapM_cons, press]
    cases reference.resolve with
    | error misuse => rfl
    | ok key =>
      show rest.foldlM press (keypad.set key true) = _
      rw [ih]
      cases rest.mapM KeyReference.resolve <;> rfl

/-- Names that all refer to keys can be looked up. -/
lemma exists_mapM (named : ∀ reference ∈ references, ∃ key, reference.resolve = .ok key) :
    ∃ keys, references.mapM KeyReference.resolve = .ok keys := by
  induction references with
  | nil => exact ⟨[], rfl⟩
  | cons reference rest ih =>
    obtain ⟨⟨key, first⟩, others⟩ := List.forall_mem_cons.1 named
    obtain ⟨keys, known⟩ := ih others
    exact ⟨key :: keys, by rw [List.mapM_cons, first, known]; rfl⟩

lemma named_of_mapM (known : references.mapM KeyReference.resolve = .ok keys) :
    ∀ reference ∈ references, ∃ key, reference.resolve = .ok key := by
  intro reference member
  have found := mapM_eq_ok_iff.1 known ▸ List.mem_map_of_mem member
  obtain ⟨key, -, resolves⟩ := List.mem_map.1 found
  exact ⟨key, resolves.symm⟩

/-- What is wrong with a list of names is what is wrong with the first that refers to no key. -/
lemma first_of_mapM (failed : references.mapM KeyReference.resolve = .error misuse) :
    ∃ before reference after keys, references = before ++ reference :: after ∧
      before.mapM KeyReference.resolve = .ok keys ∧ reference.resolve = .error misuse := by
  induction references with
  | nil => cases failed
  | cons reference rest ih =>
    rw [List.mapM_cons] at failed
    cases first : reference.resolve with
    | error raised =>
      rw [first] at failed
      cases failed
      exact ⟨[], reference, rest, [], rfl, rfl, first⟩
    | ok key =>
      cases others : rest.mapM KeyReference.resolve with
      | ok keys =>
        rw [first, others] at failed
        cases failed
      | error raised =>
        rw [first, others] at failed
        cases failed
        obtain ⟨before, unknown, after, keys, split, known, refused⟩ := ih others
        refine ⟨reference :: before, unknown, after, key :: keys, ?_, ?_, refused⟩
        · rw [split, List.cons_append]
        · rw [List.mapM_cons, first, known]
          rfl

lemma ofReferences_eq_ok_iff :
    ofReferences references = .ok keypad ↔
      ∃ keys, references.mapM KeyReference.resolve = .ok keys ∧ released.pressKeys keys = keypad := by
  rw [ofReferences_eq]
  cases references.mapM KeyReference.resolve <;> simp [Except.map]

lemma ofReferences_eq_error_iff :
    ofReferences references = .error misuse ↔ references.mapM KeyReference.resolve = .error misuse := by
  rw [ofReferences_eq]
  cases references.mapM KeyReference.resolve <;> simp [Except.map]

/-- Just the keys that are named are down. -/
lemma isDown_iff_of_mapM (known : references.mapM KeyReference.resolve = .ok keys) (key : Key) :
    (released.pressKeys keys).isDown key = true ↔
      ∃ reference ∈ references, reference.resolve = .ok key := by
  rw [isDown_pressKeys, isDown_released, Bool.or_false, List.contains_iff_mem, mem_iff_of_mapM known]

end Keypad

/-! ## Pressing keys in place -/

lemma run_forM_cons {α ε σ : Type} (program : α → EStateM ε σ Unit) (first : α) (rest : List α)
    (s : σ) : (first :: rest).forM program s = match program first s with
      | .ok _ s' => rest.forM program s'
      | .error e s' => .error e s' := by
  rw [List.forM, run_bind]
  cases program first s <;> rfl

/-- A program presses the key that it is given a name of, in states that have a keypad in one place, or
raises what is wrong with the name. -/
def Presses {ε σ : Type} (program : KeyReference → EStateM ε σ Unit) (state : Keypad → σ)
    (raise : Misuse → ε) : Prop :=
  ∀ reference keypad, program reference (state keypad) = match reference.resolve with
    | .ok key => .ok () (state (keypad.set key true))
    | .error misuse => .error (raise misuse) (state keypad)

namespace Presses

variable {ε σ : Type} {program : KeyReference → EStateM ε σ Unit} {state : Keypad → σ}
  {raise : Misuse → ε}

/-- If all names refer to keys, these are pressed before what comes next. -/
lemma forM_append (presses : Presses program state raise)
    (known : references.mapM KeyReference.resolve = .ok keys) (rest : List KeyReference)
    (keypad : Keypad) :
    (references ++ rest).forM program (state keypad) =
      rest.forM program (state (keypad.pressKeys keys)) := by
  induction references generalizing keypad keys with
  | nil =>
    cases known
    rfl
  | cons reference others ih =>
    rw [mapM_eq_ok_iff] at known
    cases keys with
    | nil => cases known
    | cons key keys =>
      obtain ⟨first, following⟩ := List.cons.inj known
      rw [List.cons_append, run_forM_cons, presses, first]
      exact ih (mapM_eq_ok_iff.2 following) _

lemma forM_of_ok (presses : Presses program state raise)
    (known : references.mapM KeyReference.resolve = .ok keys) (keypad : Keypad) :
    references.forM program (state keypad) = .ok () (state (keypad.pressKeys keys)) := by
  rw [← List.append_nil references, presses.forM_append known]
  rfl

/-- The first name that refers to no key ends it. -/
lemma forM_of_error (presses : Presses program state raise) {reference : KeyReference}
    (known : references.mapM KeyReference.resolve = .ok keys)
    (unknown : reference.resolve = .error misuse) (rest : List KeyReference) (keypad : Keypad) :
    (references ++ reference :: rest).forM program (state keypad) =
      .error (raise misuse) (state (keypad.pressKeys keys)) := by
  rw [presses.forM_append known, run_forM_cons, presses, unknown]

end Presses

/-- Presses keys of a session by their names. -/
def Session.pressAll (references : List KeyReference) : EStateM Error Session Unit :=
  references.forM fun reference => tryKeypad (·.press reference)

lemma Session.presses (session : Session) :
    Presses (fun reference => tryKeypad (·.press reference)) session.withKeypad .misuse := by
  intro reference keypad
  show tryKeypad (·.press reference) (session.withKeypad keypad) = _
  rw [run_tryKeypad, Keypad.press]
  cases reference.resolve <;> rfl

namespace Raw

/-- Presses keys of the raw machine by their names. -/
def pressAll (references : List KeyReference) : Program Unit :=
  references.forM fun reference => setKey reference true

/-- Puts down the keys that are named, one after the other, in a list of states. -/
def putDown : List Bool → List KeyReference → Program (List Bool)
  | states, [] => return states
  | states, reference :: rest => do
    match reference.resolve with
    | .error misuse => throw (.error (.misuse misuse))
    | .ok key => putDown (← setItem states key.val true) rest

/-- The states of the keys when just those are down that are named. -/
def statesOf (references : List KeyReference) : Program (List Bool) :=
  putDown (List.replicate 16 false) references

lemma run_setItem_down (keypad : Keypad) (key : Key) :
    (setItem keypad.down.toList key.val true : Program (List Bool)) =
      pure (keypad.set key true).down.toList := by
  have inside : key.val < keypad.down.toList.length := by
    rw [Vector.length_toList]
    exact key.isLt
  rw [setItem_natCast inside, ← Vector.toList_set key.isLt]
  rfl

lemma presses (machine : Machine) :
    Presses (fun reference => setKey reference true)
      (fun keypad => { machine with keys := keypad.down.toList }) (.error ∘ .misuse) := by
  intro reference keypad
  show setKey reference true { machine with keys := keypad.down.toList } = _
  unfold setKey
  cases reference.resolve with
  | error misuse => rfl
  | ok key =>
    dsimp only
    rw [run_bind, run_get]
    dsimp only
    rw [run_bind, run_setItem_down]
    rfl

lemma run_putDown (keypad : Keypad) (references : List KeyReference) (machine : Machine) :
    putDown keypad.down.toList references machine =
      match references.mapM KeyReference.resolve with
      | .ok keys => .ok (keypad.pressKeys keys).down.toList machine
      | .error misuse => .error (.error (.misuse misuse)) machine := by
  induction references generalizing keypad with
  | nil => rfl
  | cons reference rest ih =>
    rw [putDown, List.mapM_cons]
    cases reference.resolve with
    | error misuse => rfl
    | ok key =>
      dsimp only
      rw [run_setItem_down]
      show putDown (keypad.set key true).down.toList rest machine = _
      rw [ih]
      cases rest.mapM KeyReference.resolve <;> rfl

/-- Pressing from all keys up starts with the list of states in which all are up. -/
lemma run_releaseAll_pressAll (references : List KeyReference) (machine : Machine) :
    (releaseAll >>= fun _ => pressAll references) machine =
      pressAll references { machine with keys := Keypad.released.down.toList } := by
  rw [run_bind]
  rfl

end Raw

/-! ## Both ways agree -/

namespace Keypad

/-- A keypad is what a list of names comes to, all of which refer to keys. -/
structure IsLatchOf (keypad : Keypad) (references : List KeyReference) : Prop where
  /-- It is what pressing them one after the other makes of a keypad with all keys up. -/
  pressed (session : Session) :
    Session.pressAll references (session.withKeypad .released) = .ok () (session.withKeypad keypad)
  /-- The machine of plain lists builds the same list, and presses keys in place to the same end. -/
  listed (machine : Raw.Machine) :
    Raw.statesOf references machine = .ok keypad.down.toList machine ∧
      (Raw.releaseAll >>= fun _ => Raw.pressAll references) machine =
        .ok () { machine with keys := keypad.down.toList }
  /-- Neither the order of the names matters nor how often each is given. -/
  rearranged (others : List KeyReference)
    (same : ∀ reference, reference ∈ others ↔ reference ∈ references) :
    ofReferences others = .ok keypad
  isDown_iff (key : Key) :
    keypad.isDown key = true ↔ ∃ reference ∈ references, reference.resolve = .ok key
  /-- All keys can be set to it at once. -/
  set (session : Session) :
    Session.setKeys keypad.down.toList session = .ok () (session.withKeypad keypad)
  lowest_iff (key : Key) : keypad.lowestDown? = some key ↔
    IsLeast {key | ∃ reference ∈ references, reference.resolve = .ok key} key
  none_iff : keypad.lowestDown? = none ↔ references = []

/-- A list of names is refused at the first that refers to no key, for what is wrong with it. The keypad
is what the names before it come to. -/
structure StopsAt (before : List KeyReference) (reference : KeyReference) (after : List KeyReference)
    (misuse : Misuse) (keypad : Keypad) : Prop where
  named (earlier : KeyReference) (member : earlier ∈ before) : ∃ key, earlier.resolve = .ok key
  unknown : reference.resolve = .error misuse
  earlier : ofReferences before = .ok keypad
  /-- Pressing one after the other raises the same, with the keys before it down. -/
  pressed (session : Session) :
    Session.pressAll (before ++ reference :: after) (session.withKeypad .released) =
      .error (.misuse misuse) (session.withKeypad keypad)
  listed (machine : Raw.Machine) :
    Raw.statesOf (before ++ reference :: after) machine = .error (.error (.misuse misuse)) machine ∧
      (Raw.releaseAll >>= fun _ => Raw.pressAll (before ++ reference :: after)) machine =
        .error (.error (.misuse misuse)) { machine with keys := keypad.down.toList }

lemma isLatchOf_of_ofReferences (made : ofReferences references = .ok keypad) :
    keypad.IsLatchOf references := by
  obtain ⟨keys, known, rfl⟩ := ofReferences_eq_ok_iff.1 made
  have down := isDown_iff_of_mapM known
  refine ⟨fun session => ?_, fun machine => ⟨?_, ?_⟩, fun others same => ?_, down, fun session => ?_,
    fun key => ?_, ?_⟩
  · exact session.presses.forM_of_ok known released
  · have built := Raw.run_putDown released references machine
    rwa [known] at built
  · rw [Raw.run_releaseAll_pressAll]
    exact (Raw.presses machine).forM_of_ok known released
  · obtain ⟨found, knownToo, sameKeys⟩ :=
      exists_mapM_of_mem_iff (fun {reference} => (same reference).symm) known
    exact ofReferences_eq_ok_iff.2 ⟨found, knownToo, pressKeys_congr sameKeys⟩
  · rw [Session.setKeys, Session.run_tryKeypad, ofList_toList]
  · simp only [lowestDown?_eq_some_iff, down]
  · rw [lowestDown?_eq_none_iff]
    constructor
    · intro up
      -- A first name would refer to a key, and that key would be down.
      refine List.eq_nil_iff_forall_not_mem.2 fun reference member => ?_
      obtain ⟨key, resolves⟩ := named_of_mapM known reference member
      have pressed := (down key).2 ⟨reference, member, resolves⟩
      rw [up key] at pressed
      cases pressed
    · rintro rfl key
      cases known
      exact isDown_released key

lemma stopsAt_of_ofReferences (refused : ofReferences references = .error misuse) :
    ∃ before reference after keypad, references = before ++ reference :: after ∧
      StopsAt before reference after misuse keypad := by
  have failed := ofReferences_eq_error_iff.1 refused
  obtain ⟨before, reference, after, keys, rfl, known, unknown⟩ := first_of_mapM failed
  refine ⟨before, reference, after, released.pressKeys keys, rfl, named_of_mapM known, unknown,
    ofReferences_eq_ok_iff.2 ⟨keys, known, rfl⟩, fun session => ?_, fun machine => ⟨?_, ?_⟩⟩
  · exact session.presses.forM_of_error known unknown after released
  · have built := Raw.run_putDown released (before ++ reference :: after) machine
    rwa [failed] at built
  · rw [Raw.run_releaseAll_pressAll]
    exact (Raw.presses machine).forM_of_error known unknown after released

/-- Naming the keys that are to be down succeeds just if every name refers to a key. What it comes to is
what pressing them one after the other makes of a keypad with all keys up. Otherwise both ways raise what
is wrong with the first name that refers to no key. A list of states for another number of keys changes
nothing. -/
theorem latches_agree (references : List KeyReference) :
    ofReferences references = references.foldlM press released ∧
    ((∃ keypad, ofReferences references = .ok keypad) ↔
      ∀ reference ∈ references, ∃ key, reference.resolve = .ok key) ∧
    (∀ keypad, ofReferences references = .ok keypad → keypad.IsLatchOf references) ∧
    (∀ misuse, ofReferences references = .error misuse →
      ∃ before reference after keypad, references = before ++ reference :: after ∧
        StopsAt before reference after misuse keypad) ∧
    ∀ (states : List Bool) (session : Session), states.length ≠ 16 →
      Session.setKeys states session = .error (.misuse (.latchLength states.length)) session := by
  refine ⟨?_, ⟨fun ⟨keypad, made⟩ => ?_, fun named => ?_⟩, fun _ => isLatchOf_of_ofReferences,
    fun _ => stopsAt_of_ofReferences, fun states session other => ?_⟩
  · rw [ofReferences_eq, foldlM_press]
  · obtain ⟨keys, known, -⟩ := ofReferences_eq_ok_iff.1 made
    exact named_of_mapM known
  · obtain ⟨keys, known⟩ := exists_mapM named
    exact ⟨_, ofReferences_eq_ok_iff.2 ⟨keys, known, rfl⟩⟩
  · rw [Session.setKeys, Session.run_tryKeypad, ofList, dif_neg other]

/-- Names in both letter cases, a code and a truth value, some of them for the same key. -/
def mixedNames : List KeyReference := [.place "w", .code 15, .ofBool true, .place "W"]

theorem latches_agree_on_mixed_names :
    (released.pressKeys [1, 5, 15]).IsLatchOf mixedNames ∧
    (∃ before reference after keypad,
      mixedNames ++ [.place "5", .code 16] = before ++ reference :: after ∧
        StopsAt before reference after (.unknownKey "5") keypad) ∧
    ∃ session : Session, Session.setKeys [true] session = .error (.misuse (.latchLength 1)) session := by
  obtain ⟨-, -, made, -, length⟩ := latches_agree mixedNames
  obtain ⟨-, -, -, refused, -⟩ := latches_agree (mixedNames ++ [.place "5", .code 16])
  exact ⟨made _ rfl, refused _ rfl,
    { rom := .empty
      cyclesPerTick := 1
      cyclesPerTick_pos := Nat.one_pos
      machine := .powerOn .empty (.ofStream fun _ => 0) false
      debugger := .idle
      cycles := 0
      sinceTick := 0 }, length [true] _ (by decide)⟩

end Keypad

end Chip8
