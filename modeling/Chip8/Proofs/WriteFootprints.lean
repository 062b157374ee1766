import Chip8.Proofs.CallsAndReturns
import Chip8.Proofs.WordForms

/-!
# What instructions change

A machine consists of components: every register by itself, every byte and pixel, and so on. Two
machines that agree in all of them differ in the program counter at most (`Machine.eq_of_read`). An
action keeps all components but those that it is there to change, so an instruction that is put together
from actions changes no others than they do (`Machine.read_perform`). Which ones that are is told by the
fields of the word (`Word.MayChange`).
-/

namespace Chip8

/-! ## Components -/

/-- The components of a machine, except the program counter. -/
inductive Component
  | register (z : Register)
  | index
  | depth
  | slot (place : Fin 16)
  | delay
  | sound
  | awaitsKey
  | keyRegister
  | byte (address : Fin 4096)
  | imageSize
  | pixel (place : Pixel)
  | isStale
  | key (code : Key)
  | random
  | spritesWrap

namespace Component

/-- What a component holds. -/
def Value : Component → Type
  | register _ | delay | sound | byte _ => UInt8
  | index => UInt16
  | depth | slot _ | imageSize => Nat
  | awaitsKey | pixel _ | isStale | key _ | spritesWrap => Bool
  | keyRegister => Register
  | random => RandomSource

/-- The contents of a component. -/
def read : (component : Component) → Machine → component.Value
  | register z, machine => machine.processor.getV z
  | index, machine => machine.processor.index
  | depth, machine => machine.processor.stack.depth
  | slot place, machine => machine.processor.stack.slots.get place
  | delay, machine => machine.processor.delay
  | sound, machine => machine.processor.sound
  | awaitsKey, machine => machine.processor.awaitsKey
  | keyRegister, machine => machine.processor.keyRegister
  | byte address, machine => machine.memory.data.get address
  | imageSize, machine => machine.memory.imageSize
  | pixel place, machine => machine.screen.pixels.get place
  | isStale, machine => machine.screen.isStale
  | key code, machine => machine.keypad.isDown code
  | random, machine => machine.random
  | spritesWrap, machine => machine.spritesWrap

/-- The pixels, and whether they wait to be shown. -/
def onScreen : Set Component := {isStale} ∪ Set.range pixel

/-- The general registers up to and including this one. -/
def registersTo (x : Register) : Set Component := register '' Set.Iic x

/-- A block of bytes in memory. -/
def block (start size : Nat) : Set Component :=
  byte '' {address | address.val ∈ Set.Ico start (start + size)}

end Component

/-- Two machines that agree in all components are equal, apart from the program counter. -/
lemma Machine.eq_of_read {machine after : Machine}
    (same : ∀ component : Component, component.read after = component.read machine) :
    after = machine.mapProcessor ({ · with pc := after.processor.pc }) := by
  obtain ⟨⟨v, index, pc, ⟨slots, depth, _⟩, delay, sound, awaitsKey, keyRegister⟩,
    ⟨data, imageSize⟩, ⟨pixels, isStale⟩, ⟨down⟩, random, spritesWrap⟩ := machine
  obtain ⟨⟨v', index', pc', ⟨slots', depth', _⟩, delay', sound', awaitsKey', keyRegister'⟩,
    ⟨data', imageSize'⟩, ⟨pixels', isStale'⟩, ⟨down'⟩, random', spritesWrap'⟩ := after
  obtain rfl : v' = v := Vector.ext fun i h => same (.register ⟨i, h⟩)
  obtain rfl : slots' = slots := Vector.ext fun i h => same (.slot ⟨i, h⟩)
  obtain rfl : data' = data := Vector.ext fun i h => same (.byte ⟨i, h⟩)
  obtain rfl : pixels' = pixels := Vector.ext fun i h => same (.pixel ⟨i, h⟩)
  obtain rfl : down' = down := Vector.ext fun i h => same (.key ⟨i, h⟩)
  obtain rfl : index' = index := same .index
  obtain rfl : depth' = depth := same .depth
  obtain rfl : delay' = delay := same .delay
  obtain rfl : sound' = sound := same .sound
  obtain rfl : awaitsKey' = awaitsKey := same .awaitsKey
  obtain rfl : keyRegister' = keyRegister := same .keyRegister
  obtain rfl : imageSize' = imageSize := same .imageSize
  obtain rfl : isStale' = isStale := same .isStale
  obtain rfl : random' = random := same .random
  obtain rfl : spritesWrap' = spritesWrap := same .spritesWrap
  rfl

/-! ## What instructions change -/

/-- The components that an instruction may change. -/
def Instruction.changes (machine : Machine) : Instruction → Set Component
  | clear => Component.onScreen
  | ret => {.depth}
  | call _ => {.depth} ∪ {component | ∃ place, component = .slot place ∧ place.val = machine.depth}
  | loadByte x _ | addByte x _ | copy x _ | or x _ | and x _ | xor x _ | readDelay x => {.register x}
  | add x _ | subtract x _ | subtractFrom x _ | shiftRight x | shiftLeft x =>
    {.register x, .register .flag}
  | loadIndex _ | addIndex _ | loadGlyph _ => {.index}
  | random x _ => {.register x, .random}
  | draw _ _ _ => Component.onScreen ∪ {.register .flag}
  | setDelay _ => {.delay}
  | setSound _ => {.sound}
  | awaitKey x => {.awaitsKey, .keyRegister} ∪
    {component | component = .register x ∧ ∃ code, machine.keypad.isDown code = true}
  | storeDecimal _ => Component.block machine.processor.index.toNat 3
  | storeRegisters x => Component.block machine.processor.index.toNat (x + 1)
  | loadRegisters x => Component.registersTo x
  | _ => ∅

namespace Machine

variable {machine : Machine} {component : Component} {x : Register}

/-! ### Actions -/

lemma keeps_setV (other : component ≠ .register x) (byte : UInt8) :
    Keeps component.read (Action.setV x byte) := by
  intro machine
  cases component with
  | register z => exact Processor.getV_setV_of_ne fun same => other (congrArg _ same)
  | _ => rfl

lemma keeps_setIndex (other : component ≠ .index) (index : UInt16) :
    Keeps component.read (Action.setIndex index) := by
  intro machine
  cases component with
  | index => exact absurd rfl other
  | _ => rfl

lemma keeps_setDelay (other : component ≠ .delay) (byte : UInt8) :
    Keeps component.read (Action.update ({ · with delay := byte })) := by
  intro machine
  cases component with
  | delay => exact absurd rfl other
  | _ => rfl

lemma keeps_setSound (other : component ≠ .sound) (byte : UInt8) :
    Keeps component.read (Action.update ({ · with sound := byte })) := by
  intro machine
  cases component with
  | sound => exact absurd rfl other
  | _ => rfl

/-- The program counter is no component. -/
lemma keeps_pc (pc : Processor → UInt16) :
    Keeps component.read (Action.update fun processor => { processor with pc := pc processor }) := by
  intro machine
  cases component <;> rfl

lemma keeps_advance : Keeps component.read Action.advance := keeps_pc _

lemma keeps_pop (other : component ≠ .depth) : Keeps component.read Action.pop := by
  intro machine
  rw [run_pop]
  unfold CallStack.pop?
  by_cases used : 0 < machine.processor.stack.depth
  · rw [dif_pos used]
    cases component with
    | depth => exact absurd rfl other
    | _ => rfl
  · rw [dif_neg used]
    rfl

lemma keeps_clearScreen (apart : component ∉ Component.onScreen) :
    Keeps component.read Action.clearScreen := by
  intro machine
  cases component with
  | pixel place => exact absurd (.inr ⟨place, rfl⟩) apart
  | isStale => exact absurd (.inl rfl) apart
  | _ => rfl

lemma keeps_drawSprite (apart : component ∉ Component.onScreen) (a b : UInt8)
    (sprite : List UInt8) : Keeps component.read (Action.drawSprite a b sprite) := by
  intro machine
  cases component with
  | pixel place => exact absurd (.inr ⟨place, rfl⟩) apart
  | isStale => exact absurd (.inl rfl) apart
  | _ => rfl

lemma keeps_randomByte (other : component ≠ .random) :
    Keeps component.read Action.randomByte := by
  intro machine
  cases component with
  | random => exact absurd rfl other
  | _ => rfl

/-! Some actions change what depends on the machine that they find. -/

lemma read_push (deep : component ≠ .depth)
    (apart : ∀ place : Fin 16, component = .slot place → place.val ≠ machine.depth) (address : Nat) :
    component.read (leaves (Action.push address machine)) = component.read machine := by
  rw [run_push]
  unfold CallStack.push?
  by_cases free : machine.processor.stack.depth < 16
  · rw [dif_pos free]
    cases component with
    | depth => exact absurd rfl deep
    | slot place => exact Vector.getElem_set_ne free place.isLt (apart place rfl).symm
    | _ => rfl
  · rw [dif_neg free]
    rfl

lemma read_writeBlock {bytes : List UInt8}
    (apart : component ∉ Component.block machine.processor.index.toNat bytes.length) :
    component.read (leaves (Action.writeBlock bytes machine)) = component.read machine := by
  rw [run_writeBlock]
  unfold Memory.writeBytes
  by_cases inside : Memory.Within machine.processor.index.toNat bytes.length
  · rw [if_pos inside]
    cases component with
    | byte address =>
      have outside : ¬(machine.processor.index.toNat ≤ address.val ∧
          address.val < machine.processor.index.toNat + bytes.length) := fun member =>
        apart ⟨address, member, rfl⟩
      exact getElem_overwrite_of_outside machine.memory.data machine.processor.index.toNat address
        bytes address.isLt (by omega)
    | _ => rfl
  · rw [if_neg inside]
    rfl

/-- Waiting records the register, and ends at once if a key is down. -/
lemma read_awaitKey (apart : component ∉ (Instruction.awaitKey x).changes machine) :
    component.read (leaves (Action.awaitKey x machine)) = component.read machine := by
  have waiting : Action.awaitKey x machine =
      Action.pollKey (machine.mapProcessor ({ · with awaitsKey := true, keyRegister := x })) := rfl
  have found : (machine.mapProcessor ({ · with awaitsKey := true, keyRegister := x })).keypad =
      machine.keypad := rfl
  rw [waiting, run_pollKey, found]
  cases component with
  | awaitsKey => exact absurd (.inl (.inl rfl)) apart
  | keyRegister => exact absurd (.inl (.inr rfl)) apart
  | register z =>
    cases lowest : machine.keypad.lowestDown? with
    | none => rfl
    | some key =>
      have down : machine.keypad.isDown key = true := List.find?_some lowest
      exact Processor.getV_setV_of_ne fun same => apart (.inr ⟨congrArg _ same, key, down⟩)
  | _ => cases machine.keypad.lowestDown? <;> rfl

lemma read_loadRegisters (apart : component ∉ Component.registersTo x) :
    component.read (leaves (perform (.loadRegisters x) machine)) = component.read machine := by
  rw [perform, run_bind, run_readBlock]
  cases read : machine.memory.readBytes machine.processor.index.toNat (x + 1 : Nat) with
  | error cause => rfl
  | ok bytes =>
    have size := Memory.length_of_readBytes read
    cases component with
    | register z =>
      have above : x.val < z.val := Nat.not_le.1 fun below => apart ⟨z, below, rfl⟩
      exact getElem_overwrite_of_outside machine.processor.v 0 z bytes z.isLt (by omega)
    | _ => rfl

/-! ### Instructions -/

/-- Most instructions end by writing a register. -/
lemma keeps_setV_advance (other : component ≠ .register x) (byte : UInt8) :
    Keeps component.read (do Action.setV x byte; Action.advance) :=
  (keeps_setV other byte).bind fun _ => keeps_advance

lemma keeps_setIndex_advance (other : component ≠ .index) (index : UInt16) :
    Keeps component.read (do Action.setIndex index; Action.advance) :=
  (keeps_setIndex other index).bind fun _ => keeps_advance

section
variable (apart : component ∉ ({.register x, .register .flag} : Set Component))
include apart

lemma keeps_setV_setFlag (byte : UInt8) (flag : Bool) :
    Keeps component.read (do Action.setV x byte; Action.setFlag flag; Action.advance) :=
  (keeps_setV (fun same => apart (.inl same)) byte).bind fun _ =>
    keeps_setV_advance (fun same => apart (.inr same)) _

lemma keeps_setFlag_setV (byte : UInt8) (flag : Bool) :
    Keeps component.read (do Action.setFlag flag; Action.setV x byte; Action.advance) :=
  (keeps_setV (fun same => apart (.inr same)) _).bind fun _ =>
    keeps_setV_advance (fun same => apart (.inl same)) byte

end

/-- An instruction changes nothing but its components, also if it faults. -/
theorem read_perform (instruction : Instruction) (apart : component ∉ instruction.changes machine) :
    component.read (leaves (perform instruction machine)) = component.read machine := by
  cases instruction
  case clear => exact (keeps_clearScreen apart).bind (fun _ => keeps_advance) machine
  case ret => exact (keeps_pop apart).bind (fun _ => keeps_pc _) machine
  case jump target => exact keeps_pc _ machine
  case call target =>
    rw [perform, run_bind, run_get]
    exact leaves_bind (read_push (fun same => apart (.inl same))
      (fun place same newest => apart (.inr ⟨place, same, newest⟩)) _) fun _ => keeps_pc _
  case jumpOffset target => exact keeps_pc _ machine
  case skipIfByte x byte | skipUnlessByte x byte => exact keeps_pc _ machine
  case skipIfEqual x y | skipUnlessEqual x y => exact keeps_pc _ machine
  case skipIfDown x | skipIfUp x =>
    exact (keeps_isDown _ x).bind (fun _ => keeps_pc _) machine
  case loadByte x byte | addByte x byte => exact keeps_setV_advance apart _ machine
  case copy x y | or x y | and x y | xor x y => exact keeps_setV_advance apart _ machine
  case add x y | subtract x y | subtractFrom x y => exact keeps_setV_setFlag apart _ _ machine
  case shiftRight x | shiftLeft x => exact keeps_setFlag_setV apart _ _ machine
  case loadIndex target => exact keeps_setIndex_advance apart _ machine
  case addIndex x | loadGlyph x => exact keeps_setIndex_advance apart _ machine
  case random x mask =>
    exact (keeps_randomByte fun same => apart (.inr same)).bind
      (fun _ => keeps_setV_advance (fun same => apart (.inl same)) _) machine
  case draw x y height =>
    refine (keeps_readBlock _ _).bind (fun sprite => ?_) machine
    intro machine
    exact (keeps_drawSprite (fun member => apart (.inl member)) _ _ _).bind
      (fun _ => keeps_setV_advance (fun same => apart (.inr same)) _) machine
  case readDelay x => exact keeps_setV_advance apart _ machine
  case setDelay x => exact (keeps_setDelay apart _).bind (fun _ => keeps_advance) machine
  case setSound x => exact (keeps_setSound apart _).bind (fun _ => keeps_advance) machine
  case awaitKey x => exact read_awaitKey apart
  case storeDecimal x =>
    rw [perform, run_bind, run_getV]
    exact leaves_bind (read_writeBlock apart) fun _ => keeps_advance
  case storeRegisters x =>
    have size : (machine.processor.v.toList.take (x + 1)).length = x + 1 := by
      rw [List.length_take, Vector.length_toList]
      omega
    rw [perform, run_bind, run_get]
    refine leaves_bind (read_writeBlock ?_) fun _ => keeps_advance
    rw [size]
    exact apart
  case loadRegisters x => exact read_loadRegisters apart
  case undefined word => rfl

end Machine

/-! ## What words change -/

namespace Word

/-- The components that the instruction of a word may change, told by the fields of the word. -/
def MayChange (machine : Machine) (word : UInt16) : Component → Prop
  | .register z =>
    family word ∈ [0x6, 0x7, 0xC] ∧ z = x word ∨
    family word = 0x8 ∧ (nibble word).val ∈ [0x0, 0x1, 0x2, 0x3] ∧ z = x word ∨
    family word = 0x8 ∧ (nibble word).val ∈ [0x4, 0x5, 0x6, 0x7, 0xE] ∧ (z = x word ∨ z = .flag) ∨
    family word = 0xD ∧ z = .flag ∨
    family word = 0xF ∧ byte word = 0x07 ∧ z = x word ∨
    family word = 0xF ∧ byte word = 0x0A ∧ z = x word ∧
      (∃ code, machine.keypad.isDown code = true) ∨
    family word = 0xF ∧ byte word = 0x65 ∧ z ≤ x word
  | .index => family word = 0xA ∨ family word = 0xF ∧ byte word ∈ [0x1E, 0x29]
  | .depth => family word = 0x2 ∨ family word = 0x0 ∧ byte word = 0xEE
  | .slot place => family word = 0x2 ∧ place.val = machine.depth
  | .delay => family word = 0xF ∧ byte word = 0x15
  | .sound => family word = 0xF ∧ byte word = 0x18
  | .awaitsKey | .keyRegister => family word = 0xF ∧ byte word = 0x0A
  | .byte address =>
    let start := machine.processor.index.toNat
    family word = 0xF ∧ byte word = 0x33 ∧ start ≤ address.val ∧ address.val ≤ start + 2 ∨
    family word = 0xF ∧ byte word = 0x55 ∧ start ≤ address.val ∧ address.val ≤ start + x word
  | .pixel _ | .isStale => family word = 0x0 ∧ byte word = 0xE0 ∨ family word = 0xD
  | .random => family word = 0xC
  | .imageSize | .key _ | .spritesWrap => False

variable {machine : Machine} {word : UInt16} {component : Component}

open Instruction in
/-- What an instruction changes, the words that it is decoded from may change. -/
lemma mayChange_of_changes (member : component ∈ (decode word).changes machine) :
    MayChange machine word component := by
  have bound := family_lt word
  revert member
  unfold decode
  -- Family by family, as the decoder goes.
  generalize of : family word = family at bound
  interval_cases family
  case «0» =>
    simp only [decodePlain]
    split
    case h_1 clears => rintro (rfl | ⟨place, rfl⟩) <;> exact .inl ⟨of, clears⟩
    case h_2 returns =>
      rintro rfl
      exact .inr ⟨of, returns⟩
    case h_3 => exact False.elim
  case «2» =>
    rintro (rfl | ⟨place, rfl, newest⟩)
    · exact .inl of
    · exact ⟨of, newest⟩
  case «6» =>
    rintro rfl
    exact .inl ⟨by simp [of], rfl⟩
  case «7» =>
    rintro rfl
    exact .inl ⟨by simp [of], rfl⟩
  case «8» =>
    have alone {z : Register} (operation : (nibble word).val ∈ [0x0, 0x1, 0x2, 0x3])
        (same : z = x word) : MayChange machine word (.register z) :=
      .inr (.inl ⟨of, operation, same⟩)
    have flagged {z : Register} (operation : (nibble word).val ∈ [0x4, 0x5, 0x6, 0x7, 0xE])
        (same : z = x word ∨ z = .flag) : MayChange machine word (.register z) :=
      .inr (.inr (.inl ⟨of, operation, same⟩))
    simp only [decodeArithmetic]
    split
    case h_10 => exact False.elim
    case h_1 operation | h_2 operation | h_3 operation | h_4 operation =>
      rintro rfl
      exact alone (by simp [operation]) rfl
    all_goals
      rintro (rfl | rfl)
      · exact flagged (by simp [*]) (.inl rfl)
      · exact flagged (by simp [*]) (.inr rfl)
  case «10» =>
    rintro rfl
    exact .inl of
  case «12» =>
    rintro (rfl | rfl)
    · exact .inl ⟨by simp [of], rfl⟩
    · exact of
  case «13» =>
    rintro ((rfl | ⟨place, rfl⟩) | rfl)
    · exact .inr of
    · exact .inr of
    · exact .inr (.inr (.inr (.inl ⟨of, rfl⟩)))
  case «14» =>
    simp only [decodeKey]
    split <;> exact False.elim
  case «15» =>
    simp only [decodeTransfer]
    split
    case h_1 reads =>
      rintro rfl
      exact .inr (.inr (.inr (.inr (.inl ⟨of, reads, rfl⟩))))
    case h_2 waits =>
      rintro ((rfl | rfl) | ⟨rfl, pressed⟩)
      · exact ⟨of, waits⟩
      · exact ⟨of, waits⟩
      · exact .inr (.inr (.inr (.inr (.inr (.inl ⟨of, waits, rfl, pressed⟩)))))
    case h_3 sets | h_4 sets =>
      rintro rfl
      exact ⟨of, sets⟩
    case h_5 points | h_6 points =>
      rintro rfl
      exact .inr ⟨of, by simp [points]⟩
    case h_7 stores =>
      rintro ⟨address, ⟨above, below⟩, rfl⟩
      exact .inl ⟨of, stores, above, Nat.le_of_lt_succ below⟩
    case h_8 stores =>
      rintro ⟨address, ⟨above, below⟩, rfl⟩
      exact .inr ⟨of, stores, above, Nat.le_of_lt_succ below⟩
    case h_9 loads =>
      rintro ⟨z, below, rfl⟩
      exact .inr (.inr (.inr (.inr (.inr (.inr ⟨of, loads, below⟩)))))
    case h_10 => exact False.elim
  all_goals exact False.elim

end Word

namespace Machine

/-- Nothing changes but what the word may change, and the program counter. This holds of a word that
faults, too. -/
theorem execute_changes_only (machine : Machine) (word : UInt16) :
    (∀ component : Component, ¬Word.MayChange machine word component →
      component.read (leaves (machine.execute word)) = component.read machine) ∧
    ((∀ component, ¬Word.MayChange machine word component) →
      ∃ pc, leaves (machine.execute word) = machine.mapProcessor ({ · with pc })) := by
  have kept (component : Component) (apart : ¬Word.MayChange machine word component) :
      component.read (leaves (machine.execute word)) = component.read machine := by
    rw [execute, leaves_adaptExcept]
    exact read_perform _ fun member => apart (Word.mayChange_of_changes member)
  exact ⟨kept, fun nothing => ⟨_, eq_of_read fun component => kept component (nothing component)⟩⟩

/-- A machine that is about to store the digits of a register. -/
def digitsAtHand : Machine :=
  (powerOn .empty (.ofStream fun _ => 0) false).mapProcessor fun processor =>
    { processor.setV .first 209 with index := 0x400 }

/-- Storing the digits of a register reaches the last byte of its block and not the one behind it, and
leaves every register as it was. A skip changes nothing but the program counter. -/
theorem execute_changes_only_digits :
    let after := leaves (digitsAtHand.execute 0xF033)
    (digitsAtHand.memory.data[0x402] = 0 ∧ after.memory.data[0x402] = 9) ∧
    after.memory.data[0x403] = digitsAtHand.memory.data[0x403] ∧
    (∀ z, after.processor.getV z = digitsAtHand.processor.getV z) ∧
    ∃ pc, leaves (digitsAtHand.execute 0x3000) = digitsAtHand.mapProcessor ({ · with pc }) := by
  have digits : Word.family 0xF033 = 0xF ∧ Word.byte 0xF033 = 0x33 := by decide
  have skip : Word.family 0x3000 = 0x3 := by decide
  have start : digitsAtHand.processor.index = 0x400 := rfl
  obtain ⟨kept, -⟩ := execute_changes_only digitsAtHand 0xF033
  obtain ⟨-, moved⟩ := execute_changes_only digitsAtHand 0x3000
  refine ⟨by decide +kernel, ?_, ?_, ?_⟩
  · refine kept (.byte 0x403) ?_
    simp [Word.MayChange, digits, start]
  · intro z
    refine kept (.register z) ?_
    simp [Word.MayChange, digits]
  · refine moved fun component => ?_
    cases component <;> simp [Word.MayChange, skip]

end Machine

end Chip8
