import Chip8.Proofs.CallsAndReturns
import Chip8.Proofs.WordForms

/-!
# Where instructions continue

Every instruction sets the program counter itself. `Instruction.successor` is the address at which an
instruction continues if it does not fault, as a number that may be larger than the program counter
can hold; the program counter takes its low sixteen bits (`pc_of_perform`). The same is told by the
fields of the instruction word (`Word.successor`), so it holds of every word that is executed
(`pc_of_execute`).
-/

namespace Chip8

namespace Machine

/-- The address of the next instruction, or of the one behind it. -/
def behind (machine : Machine) (skips : Bool) : Nat :=
  machine.processor.pc.toNat + if skips then 4 else 2

/-- Whether the key whose code is in a register is down. -/
def seesKey (machine : Machine) (x : Register) : Bool :=
  if code : (machine.processor.getV x).toNat < 16 then machine.keypad.isDown ⟨_, code⟩ else false

end Machine

/-- The address at which an instruction continues. -/
def Instruction.successor (machine : Machine) : Instruction → Nat
  | ret => machine.live.getLastD 0
  | jump target => target
  | call target => target
  | jumpOffset target => target + (machine.processor.getV .offset).toNat
  | skipIfByte x byte => machine.behind (machine.processor.getV x = byte)
  | skipUnlessByte x byte => machine.behind (machine.processor.getV x ≠ byte)
  | skipIfEqual x y => machine.behind (machine.processor.getV x = machine.processor.getV y)
  | skipUnlessEqual x y => machine.behind (machine.processor.getV x ≠ machine.processor.getV y)
  | skipIfDown x => machine.behind (machine.seesKey x)
  | skipIfUp x => machine.behind (!machine.seesKey x)
  | awaitKey _ =>
    if machine.keypad.lowestDown?.isSome then machine.behind false else machine.processor.pc.toNat
  | _ => machine.behind false

namespace Machine

variable {machine after : Machine} {instruction : Instruction}

lemma ofNat_toNat_add (pc : UInt16) (n : Nat) :
    UInt16.ofNat (pc.toNat + n) = pc + UInt16.ofNat n := by
  rw [UInt16.ofNat_add, UInt16.ofNat_toNat]

lemma ofNat_behind (machine : Machine) (skips : Bool) :
    UInt16.ofNat (machine.behind skips) =
      (machine.processor.skipIf skips).pc := by
  unfold behind Processor.skipIf
  rw [ofNat_toNat_add]
  cases skips <;> rfl

/-- Polling the keypad continues behind the instruction if a key is down, and else stays. -/
lemma pc_of_pollKey (polled : Action.pollKey machine = .ok () after) (x : Register) :
    after.processor.pc = UInt16.ofNat ((Instruction.awaitKey x).successor machine) := by
  rw [run_pollKey] at polled
  unfold Instruction.successor
  cases lowest : machine.keypad.lowestDown? with
  | none =>
    rw [lowest] at polled
    cases polled
    exact UInt16.ofNat_toNat.symm
  | some key =>
    rw [lowest] at polled
    cases polled
    exact (machine.ofNat_behind false).symm

/-! ## Instructions that check first -/

lemma eq_of_isDown {x : Register} {down : Bool} {between : Machine}
    (looked : Action.isDown x machine = .ok down between) :
    down = machine.seesKey x ∧ between = machine := by
  rw [run_isDown] at looked
  unfold seesKey
  split at looked
  · next code =>
    cases looked
    rw [dif_pos code]
    exact ⟨rfl, rfl⟩
  · cases looked

lemma eq_of_readBlock {count : Nat} {bytes : List UInt8} {between : Machine}
    (read : Action.readBlock count machine = .ok bytes between) : between = machine := by
  have kept := keeps_readBlock id count machine
  rwa [read] at kept

lemma eq_of_writeBlock {bytes : List UInt8} {between : Machine}
    (written : Action.writeBlock bytes machine = .ok () between) :
    ∃ memory, between = { machine with memory } := by
  rw [run_writeBlock] at written
  split at written
  · next memory _ =>
    cases written
    exact ⟨memory, rfl⟩
  · cases written

/-! ## The program counter -/

/-- The program counter is the one of the machine that an action leaves. -/
lemma pc_of_left {action : Action Unit} {pc : Nat} (performed : action machine = .ok () after)
    (left : UInt16.ofNat pc = (leaves (action machine)).processor.pc) :
    after.processor.pc = UInt16.ofNat pc := by
  rw [left, performed]
  rfl

/-- An instruction that completes continues at its successor. -/
theorem pc_of_perform (performed : perform instruction machine = .ok () after) :
    after.processor.pc = UInt16.ofNat (instruction.successor machine) := by
  have next := machine.ofNat_behind false
  -- Those that can fault go on when their first action succeeds.
  cases instruction
  case ret =>
    obtain ⟨newest, shrunk, jumped⟩ := perform_ret performed
    rw [jumped, Instruction.successor, shrunk, List.getLastD_concat]
  case call target =>
    rw [Instruction.successor, ← (perform_call performed).2, UInt16.ofNat_toNat]
  case skipIfDown x =>
    obtain ⟨down, between, looked, skipped⟩ := bind_eq_ok_iff.1 performed
    obtain ⟨rfl, rfl⟩ := eq_of_isDown looked
    exact pc_of_left skipped (between.ofNat_behind _)
  case skipIfUp x =>
    obtain ⟨down, between, looked, skipped⟩ := bind_eq_ok_iff.1 performed
    obtain ⟨rfl, rfl⟩ := eq_of_isDown looked
    exact pc_of_left skipped (between.ofNat_behind _)
  case draw x y height =>
    obtain ⟨sprite, between, read, drawn⟩ := bind_eq_ok_iff.1 performed
    obtain rfl := eq_of_readBlock read
    exact pc_of_left drawn next
  case storeDecimal x =>
    rw [perform, run_bind, run_getV] at performed
    obtain ⟨_, between, written, advanced⟩ := bind_eq_ok_iff.1 performed
    obtain ⟨memory, rfl⟩ := eq_of_writeBlock written
    exact pc_of_left advanced next
  case storeRegisters x =>
    rw [perform, run_bind, run_get] at performed
    obtain ⟨_, between, written, advanced⟩ := bind_eq_ok_iff.1 performed
    obtain ⟨memory, rfl⟩ := eq_of_writeBlock written
    exact pc_of_left advanced next
  case loadRegisters x =>
    obtain ⟨bytes, between, read, loaded⟩ := bind_eq_ok_iff.1 performed
    obtain rfl := eq_of_readBlock read
    exact pc_of_left loaded next
  case awaitKey x => exact pc_of_pollKey performed x
  case undefined word => cases performed
  case jump target => exact pc_of_left performed rfl
  case jumpOffset target => exact pc_of_left performed rfl
  case skipIfByte x byte => exact pc_of_left performed (machine.ofNat_behind _)
  case skipUnlessByte x byte => exact pc_of_left performed (machine.ofNat_behind _)
  case skipIfEqual x y => exact pc_of_left performed (machine.ofNat_behind _)
  case skipUnlessEqual x y => exact pc_of_left performed (machine.ofNat_behind _)
  all_goals exact pc_of_left performed next

end Machine

/-! ## Words -/

/-- Waiting continues where it is exactly if all keys are up. -/
lemma Instruction.successor_awaitKey (machine : Machine) (x : Register) :
    (awaitKey x).successor machine =
      if ∀ key, machine.keypad.isDown key = false then machine.processor.pc.toNat
      else machine.behind false := by
  unfold successor
  cases lowest : machine.keypad.lowestDown? with
  | none =>
    have up : ∀ key, machine.keypad.isDown key = false := by
      simpa [Keypad.lowestDown?] using lowest
    rw [if_pos up]
    rfl
  | some key =>
    have down : machine.keypad.isDown key = true := List.find?_some lowest
    have pressed : ¬∀ key, machine.keypad.isDown key = false := fun up =>
      Bool.false_ne_true ((up key).symm.trans down)
    rw [if_neg pressed]
    rfl

namespace Word

/-- The address at which the instruction of a word continues, told by the fields of the word. -/
def successor (machine : Machine) (word : UInt16) : Nat :=
  let a := machine.processor.getV (x word)
  let b := machine.processor.getV (y word)
  match family word with
  | 0x0 => if byte word = 0xEE then machine.live.getLastD 0 else machine.behind false
  | 0x1 | 0x2 => target word
  | 0x3 => machine.behind (a = byte word)
  | 0x4 => machine.behind (a ≠ byte word)
  | 0x5 => machine.behind (a = b)
  | 0x9 => machine.behind (a ≠ b)
  | 0xB => target word + (machine.processor.getV .first).toNat
  | 0xE =>
    match byte word with
    | 0x9E => machine.behind (machine.seesKey (x word))
    | 0xA1 => machine.behind (!machine.seesKey (x word))
    | _ => machine.behind false
  | 0xF =>
    if byte word = 0x0A ∧ ∀ key, machine.keypad.isDown key = false then machine.processor.pc.toNat
    else machine.behind false
  | _ => machine.behind false

open Instruction in
/-- The fields of a word tell where its instruction continues. -/
lemma successor_decode (machine : Machine) (word : UInt16) :
    (decode word).successor machine = successor machine word := by
  have bound := family_lt word
  unfold decode successor
  -- Family by family, as the decoder goes.
  generalize family word = family at bound
  interval_cases family
  case «0» =>
    simp only [decodePlain]
    split <;> simp_all [Instruction.successor]
  case «8» =>
    simp only [decodeArithmetic]
    split <;> rfl
  case «14» =>
    simp only [decodeKey]
    split <;> simp_all [Instruction.successor]
  case «15» =>
    simp only [decodeTransfer]
    split
    case h_2 isWait =>
      rw [successor_awaitKey]
      simp [isWait]
    all_goals simp_all [Instruction.successor]
  all_goals rfl

end Word

namespace Machine

/-- A word that does not fault continues at its successor, of which the low sixteen bits count. -/
theorem pc_of_execute {word : UInt16} (machine : Machine) {after : Machine}
    (executed : machine.execute word = .ok () after) :
    after.processor.pc.toNat = Word.successor machine word % 65536 := by
  rw [execute, adaptExcept_eq_ok_iff] at executed
  rw [pc_of_perform executed, Word.successor_decode, UInt16.toNat_ofNat']

/-- A machine at the last address. -/
def atLastAddress : Machine :=
  (powerOn .empty (.ofStream fun _ => 0) false).mapProcessor (·.jump 0xFFFF)

/-- From the last address a skip leads round to the beginning, and so does the return to it. -/
theorem pc_of_execute_at_last_address :
    (∃ after, atLastAddress.execute 0x3000 = .ok () after ∧ after.processor.pc.toNat = 3) ∧
    ∃ called after, atLastAddress.execute 0x2300 = .ok () called ∧
      called.processor.pc.toNat = 0x300 ∧ called.execute 0x00EE = .ok () after ∧
      after.processor.pc.toNat = 1 := by
  have skipped : atLastAddress.execute 0x3000 = .ok () (leaves (atLastAddress.execute 0x3000)) := rfl
  have called : atLastAddress.execute 0x2300 = .ok () (leaves (atLastAddress.execute 0x2300)) := rfl
  have returned : (leaves (atLastAddress.execute 0x2300)).execute 0x00EE =
      .ok () (leaves ((leaves (atLastAddress.execute 0x2300)).execute 0x00EE)) := rfl
  exact ⟨⟨_, skipped, (pc_of_execute _ skipped).trans (by decide)⟩, _, _, called,
    (pc_of_execute _ called).trans (by decide), returned,
    (pc_of_execute _ returned).trans (by decide)⟩

end Machine

end Chip8
