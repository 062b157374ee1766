import Chip8.Proofs.InstructionFaults
import Chip8.Proofs.Raw.Drawing
import Chip8.Proofs.WordForms

/-!
# The raw machine executes as the machine does

One case per instruction: the actions it is made of are mirrored one by one, and where a number is
cut before it is stored, it is the number of the byte that the machine computes. With them, steps
and cycles of the raw machine are those of the machine (`mirrors_step`, `mirrors_cycle`), so no
entry is ever missing and every number fits.
-/

namespace Chip8.Raw

/-! ## Arithmetic on bytes -/

lemma number_inj {a b : UInt8} : number a = number b ↔ a = b := by
  unfold number
  rw [Nat.cast_inj, UInt8.toNat_inj]

lemma number_le {a b : UInt8} : number a ≤ number b ↔ a ≤ b := by
  unfold number
  rw [Nat.cast_le, UInt8.le_iff_toNat_le]

lemma number_add (a b : UInt8) : (number a + number b) % 256 = number (a + b) := by
  unfold number
  rw [UInt8.toNat_add]
  omega

lemma number_sub (a b : UInt8) : (number a - number b) % 256 = number (a - b) := by
  have := a.toNat_lt
  have := b.toNat_lt
  unfold number
  rw [UInt8.toNat_sub]
  omega

lemma lor_number (a b : UInt8) : Int.lor (number a) (number b) = number (a ||| b) := by
  unfold number
  rw [UInt8.toNat_or]
  rfl

lemma land_number (a b : UInt8) : Int.land (number a) (number b) = number (a &&& b) := by
  unfold number
  rw [UInt8.toNat_and]
  rfl

lemma xor_number (a b : UInt8) : Int.xor (number a) (number b) = number (a ^^^ b) := by
  unfold number
  rw [UInt8.toNat_xor]
  rfl

lemma number_shiftRight (a : UInt8) : number a >>> (1 : Nat) = number (a >>> 1) := by
  unfold number
  rw [UInt8.toNat_shiftRight]
  rfl

lemma number_shiftLeft (a : UInt8) : (number a <<< (1 : Nat)) % 256 = number (a <<< 1) := by
  unfold number
  rw [UInt8.toNat_shiftLeft, Int.shiftLeft_eq, show (1 : UInt8).toNat % 8 = 1 by decide,
    Nat.shiftLeft_eq]
  omega

lemma number_div (a b : UInt8) : number a / number b = number (a / b) := by
  unfold number
  rw [UInt8.toNat_div]
  exact (Int.natCast_div _ _).symm

lemma number_mod (a b : UInt8) : number a % number b = number (a % b) := by
  unfold number
  rw [UInt8.toNat_mod]
  exact (Int.natCast_emod _ _).symm

/-! ## Instructions -/

/-- The registers up to and including one, as bytes. -/
lemma slice_v (v : Vector UInt8 16) (x : Register) :
    slice (numbers v.toList) 0 (x.val + 1) = numbers (v.toList.take (x + 1)) := by
  have inside : 0 + (x.val + 1) ≤ (numbers v.toList).length := by
    rw [length_numbers_toList]
    omega
  have taken := slice_natCast inside
  rw [List.drop_zero] at taken
  simp only [numbers, List.map_take] at taken ⊢
  rw [← taken]
  push_cast
  rw [zero_add]

/-- A block of bytes replaces the registers up to and including one. -/
lemma setSlice_v (v : Vector UInt8 16) {x : Register} {bytes : List UInt8}
    (length : bytes.length = x + 1) :
    setSlice (numbers v.toList) 0 (x.val + 1) (numbers bytes) =
      numbers (overwrite v 0 bytes).toList := by
  have loaded := setSlice_numbers (v := v) (by omega : 0 + bytes.length ≤ 16)
  rw [length] at loaded
  push_cast at loaded
  rwa [zero_add] at loaded

lemma length_of_readBlock {count : Nat} (machine : Chip8.Machine) (bytes : List UInt8)
    (after : Chip8.Machine) (read : Machine.Action.readBlock count machine = .ok bytes after) :
    bytes.length = count := by
  rw [Machine.run_readBlock] at read
  cases found : machine.memory.readBytes machine.processor.index.toNat count with
  | error cause =>
    rw [found] at read
    cases read
  | ok bytes' =>
    rw [found] at read
    cases read
    exact Memory.length_of_readBytes found

/-- Every instruction of the raw machine does on views what it does on machines. -/
theorem mirrors_perform (word : UInt16) (instruction : Instruction)
    (decoded : instruction = .decode word) :
    MirrorsAction word id (perform word.toNat instruction) (Machine.perform instruction) := by
  cases instruction
  case clear => exact mirrors_clearScreen.bind fun _ => mirrors_advance
  case ret => exact mirrors_pop.bind fun address => mirrors_jump rfl
  case jump target => exact mirrors_jump rfl
  case call target =>
    exact Mirrors.get_bind fun machine => (mirrors_push (by simp)).bind fun _ => mirrors_jump rfl
  case jumpOffset target =>
    exact (mirrors_getV .offset).bind fun offset => mirrors_jump (by simp [number])
  case skipIfByte x byte =>
    refine (mirrors_getV x).bind fun a => ?_
    simp only [number_inj]
    exact mirrors_skipIf _
  case skipUnlessByte x byte =>
    refine (mirrors_getV x).bind fun a => ?_
    simp only [ne_eq, number_inj]
    exact mirrors_skipIf _
  case skipIfEqual x y =>
    refine (mirrors_getV x).bind fun a => (mirrors_getV y).bind fun b => ?_
    simp only [number_inj]
    exact mirrors_skipIf _
  case skipUnlessEqual x y =>
    refine (mirrors_getV x).bind fun a => (mirrors_getV y).bind fun b => ?_
    simp only [ne_eq, number_inj]
    exact mirrors_skipIf _
  case skipIfDown x => exact (mirrors_isDown x).bind fun down => mirrors_skipIf down
  case skipIfUp x => exact (mirrors_isDown x).bind fun down => mirrors_skipIf (!down)
  case loadByte x byte => exact (mirrors_setV x rfl).bind fun _ => mirrors_advance
  case addByte x byte =>
    exact (mirrors_getV x).bind fun a =>
      (mirrors_setV x (number_add a byte)).bind fun _ => mirrors_advance
  case copy x y =>
    exact (mirrors_getV y).bind fun b => (mirrors_setV x rfl).bind fun _ => mirrors_advance
  case or x y =>
    exact (mirrors_getV x).bind fun a => (mirrors_getV y).bind fun b =>
      (mirrors_setV x (lor_number a b)).bind fun _ => mirrors_advance
  case and x y =>
    exact (mirrors_getV x).bind fun a => (mirrors_getV y).bind fun b =>
      (mirrors_setV x (land_number a b)).bind fun _ => mirrors_advance
  case xor x y =>
    exact (mirrors_getV x).bind fun a => (mirrors_getV y).bind fun b =>
      (mirrors_setV x (xor_number a b)).bind fun _ => mirrors_advance
  -- Sums and differences are stored first and the flag after them. The shifts go the other way, so
  -- their flag has to be known before anything is stored.
  case add x y =>
    refine (mirrors_getV x).bind fun a => (mirrors_getV y).bind fun b =>
      (mirrors_setV x (number_add a b)).bind fun _ => ?_
    have carry : (255 < number a + number b) = (255 < a.toNat + b.toNat) := by
      unfold number
      rw [eq_iff_iff]
      omega
    simp only [carry]
    exact (mirrors_setFlag _).bind fun _ => mirrors_advance
  case subtract x y =>
    refine (mirrors_getV x).bind fun a => (mirrors_getV y).bind fun b =>
      (mirrors_setV x (number_sub a b)).bind fun _ => ?_
    simp only [number_le]
    exact (mirrors_setFlag _).bind fun _ => mirrors_advance
  case subtractFrom x y =>
    refine (mirrors_getV x).bind fun a => (mirrors_getV y).bind fun b =>
      (mirrors_setV x (number_sub b a)).bind fun _ => ?_
    simp only [number_le]
    exact (mirrors_setFlag _).bind fun _ => mirrors_advance
  case shiftRight x =>
    refine (mirrors_getV x).bind fun a => ?_
    have lost : number a % 2 = if decide (a.toNat % 2 = 1) then 1 else 0 := by
      unfold number
      simp only [decide_eq_true_eq]
      split <;> omega
    rw [lost]
    exact (mirrors_setFlag _).bind fun _ =>
      (mirrors_setV x (number_shiftRight a)).bind fun _ => mirrors_advance
  case shiftLeft x =>
    refine (mirrors_getV x).bind fun a => ?_
    have lost : (number a >>> (7 : Nat)) % 2 = if decide (128 ≤ a.toNat) then 1 else 0 := by
      have := number_lt a
      unfold number at this ⊢
      rw [Int.shiftRight_eq_div_pow]
      simp only [decide_eq_true_eq]
      split <;> omega
    rw [lost]
    exact (mirrors_setFlag _).bind fun _ =>
      (mirrors_setV x (number_shiftLeft a)).bind fun _ => mirrors_advance
  case loadIndex target =>
    exact (mirrors_setIndex (toNat_ofNat16 _).symm).bind fun _ => mirrors_advance
  case addIndex x =>
    refine (mirrors_getV x).bind fun a => Mirrors.get_bind fun machine => ?_
    have sum : (machine.toRaw.index + number a) % 65536 =
        (machine.processor.index + a.toUInt16).toNat := by
      rw [toNat_add16, UInt8.toNat_toUInt16]
      rfl
    exact (mirrors_setIndex sum).bind fun _ => mirrors_advance
  case loadGlyph x =>
    refine (mirrors_getV x).bind fun digit => ?_
    exact (mirrors_setIndex (toNat_ofInt16 _).symm).bind fun _ => mirrors_advance
  case random x mask =>
    refine mirrors_randomByte fun drawn => ?_
    have masked : Int.land (drawn % 256) (number mask) = number (UInt8.ofInt drawn &&& mask) := by
      rw [← number_ofInt, land_number]
    exact (mirrors_setV x masked).bind fun _ => mirrors_advance
  case draw x y height =>
    exact (mirrors_readBlock rfl).bind fun sprite => (mirrors_getV x).bind fun a =>
      (mirrors_getV y).bind fun b => (mirrors_drawSprite a b sprite).bind fun collision =>
        (mirrors_setFlag collision).bind fun _ => mirrors_advance
  case readDelay x =>
    exact Mirrors.get_bind fun machine => (mirrors_setV x rfl).bind fun _ => mirrors_advance
  case setDelay x =>
    exact (mirrors_getV x).bind fun a => (mirrors_update fun _ => rfl).bind fun _ => mirrors_advance
  case setSound x =>
    exact (mirrors_getV x).bind fun a => (mirrors_update fun _ => rfl).bind fun _ => mirrors_advance
  case awaitKey x => exact (mirrors_update fun _ => rfl).bind fun _ => mirrors_pollKey
  case storeDecimal x =>
    refine (mirrors_getV x).bind fun a => ?_
    have digits : [number a / 100, number a / 10 % 10, number a % 10] =
        numbers [a / 100, a / 10 % 10, a % 10] := by
      simp only [numbers, List.map_cons, List.map_nil, ← number_div, ← number_mod]
      rfl
    exact (mirrors_writeBlock digits).bind fun _ => mirrors_advance
  case storeRegisters x =>
    exact Mirrors.get_bind fun machine =>
      (mirrors_writeBlock (slice_v machine.processor.v x)).bind fun _ => mirrors_advance
  -- Only a block of the right length may replace the registers, and a block that was read has it.
  case loadRegisters x =>
    refine (mirrors_readBlock (by push_cast; rfl)).bind_of length_of_readBlock
      fun bytes length => ?_
    refine (mirrors_update fun machine => ?_).bind fun _ => mirrors_advance
    rw [Machine.toRaw_v, setSlice_v machine.processor.v length]
    rfl
  case undefined other =>
    obtain ⟨rfl, _⟩ := Word.decode_eq_undefined_iff.1 decoded.symm
    exact fun machine => rfl

/-! ## Steps and cycles -/

lemma ofInt_toNat16 (word : UInt16) : UInt16.ofInt word.toNat = word := by
  apply UInt16.toNat_inj.1
  have := word.toNat_lt
  rw [UInt16.ofInt, UInt16.toNat_ofNat']
  omega

/-- Executing the instruction of a word. -/
lemma run_execute (word : UInt16) (machine : Chip8.Machine) :
    execute word.toNat machine.toRaw =
      match Machine.perform (.decode word) machine with
      | .ok () after => .ok () after.toRaw
      | .error cause after =>
        .error (.error (.fault (cause.reported machine.processor.pc word))) after.toRaw := by
  have low : (word.toNat : Int) % 65536 = word.toNat := by
    have := word.toNat_lt
    omega
  unfold execute
  rw [low, ofInt_toNat16, mirrors_perform word _ rfl machine]
  cases h : Machine.perform (.decode word) machine with
  | ok a after => rfl
  | error cause after =>
    -- The place is read off the machine that the fault left, which is the one it began with.
    rw [Machine.perform_error h]

/-- Executing the instruction of any number. -/
lemma mirrors_execute (n : Int) :
    Mirrors Machine.toRaw (fun fault _ => .error (.fault fault)) id (execute n)
      (Machine.execute (.ofInt n)) := by
  intro machine
  -- Only the low sixteen bits count.
  have low : execute n = execute (UInt16.ofInt n).toNat := by
    unfold execute
    rw [ofInt_toNat16, toNat_ofInt16, Int.emod_emod_of_dvd _ (dvd_refl _)]
  rw [low, run_execute]
  unfold Machine.execute
  rw [run_adaptExcept]
  cases Machine.perform (.decode (.ofInt n)) machine <;> rfl

lemma toNat_word (high low : UInt8) :
    ((high.toUInt16 * 256 + low.toUInt16).toNat : Int) = 256 * number high + number low := by
  have := high.toNat_lt
  have := low.toNat_lt
  unfold number
  rw [UInt16.toNat_add, UInt16.toNat_mul, UInt8.toNat_toUInt16, UInt8.toNat_toUInt16]
  simp only [UInt16.reduceToNat]
  omega

/-- The more significant byte of a word shifted above the other. -/
lemma lor_shiftLeft_number (high low : UInt8) :
    Int.lor (number high <<< (8 : Nat)) (number low) =
      (high.toUInt16 * 256 + low.toUInt16).toNat := by
  have small := low.toNat_lt
  rw [toNat_word]
  show ((high.toNat <<< 8 ||| low.toNat : Nat) : Int) = _
  -- The bits do not overlap, so joining them is adding.
  rw [← Nat.shiftLeft_add_eq_or_of_lt small, Nat.shiftLeft_eq]
  unfold number
  push_cast
  omega

lemma run_readWord (address : Int) (machine : Chip8.Machine) :
    readWord address machine.toRaw =
      match machine.memory.readWord address with
      | .ok word => .ok word.toNat machine.toRaw
      | .error cause => .error (.error (.fault { cause })) machine.toRaw := by
  unfold readWord Memory.readWord
  rw [run_bind, run_checkBlock]
  by_cases inside : Memory.Within address 2
  · obtain ⟨begins, ends⟩ := id inside
    obtain ⟨start, rfl⟩ := Int.eq_ofNat_of_zero_le begins
    have next : (start : Int) + 1 = (start + 1 : Nat) := by omega
    rw [if_pos inside, dif_pos inside]
    dsimp only
    rw [run_bind, run_get]
    dsimp only
    rw [run_bind, Machine.toRaw_memory, item_numbers (by omega), run_pure]
    dsimp only
    rw [run_bind, run_get]
    dsimp only
    rw [run_bind, Machine.toRaw_memory, next, item_numbers (by omega), run_pure]
    dsimp only
    rw [run_pure, lor_shiftLeft_number]
    simp only [Int.toNat_natCast]
  · rw [if_neg inside, dif_neg inside]

lemma readWord_error {memory : Memory} {address : Int} {cause : Fault.Cause}
    (failed : memory.readWord address = .error cause) : cause = Memory.refusal address := by
  unfold Memory.readWord at failed
  split at failed
  · cases failed
  · cases failed
    rfl

lemma run_fetch (machine : Chip8.Machine) :
    fetch machine.toRaw =
      match machine.fetch with
      | .ok word => .ok word.toNat machine.toRaw
      | .error fault => .error (.error (.fault fault)) machine.toRaw := by
  have fetched : fetch machine.toRaw = (readWord machine.processor.pc.toNat).adaptExcept
      (.placed machine.processor.pc.toNat none) machine.toRaw := by
    unfold fetch
    rw [run_bind, run_get]
    rfl
  rw [fetched, run_adaptExcept, run_readWord]
  cases read : machine.memory.readWord machine.processor.pc.toNat with
  | ok word =>
    rw [Machine.fetch, read]
    rfl
  | error cause =>
    -- Memory refuses only blocks, so the fault is one that takes the place of the fetch.
    rw [Machine.fetch, read, readWord_error read]
    rfl

/-- Executing the instruction of a word that was read. -/
lemma run_executeAt (word : UInt16) (machine : Chip8.Machine) :
    executeAt machine.processor.pc.toNat word.toNat machine.toRaw =
      match Machine.perform (.decode word) machine with
      | .ok () after => .ok () after.toRaw
      | .error cause after =>
        .error (.error (.fault (cause.located machine.processor.pc word))) after.toRaw := by
  unfold executeAt
  rw [run_adaptExcept, run_execute]
  cases Machine.perform (.decode word) machine with
  | ok a after => rfl
  | error cause after => cases cause <;> rfl

/-- A step of the raw machine is a step of the machine. -/
theorem mirrors_step :
    Mirrors Machine.toRaw (fun fault _ => .error (.fault fault)) id step Machine.step := by
  intro machine
  rw [step, run_bind, run_get]
  dsimp only
  rw [Machine.toRaw_awaitsKey]
  cases waits : machine.isWaiting with
  | true =>
    have polled := @mirrors_pollKey 0 machine
    obtain ⟨_, after, total⟩ := Machine.total_pollKey machine
    rw [total] at polled
    rw [if_pos rfl, polled, Machine.step_of_isWaiting waits, run_adaptExcept, total]
  | false =>
    rw [if_neg Bool.false_ne_true, run_bind, run_get]
    dsimp only
    rw [run_bind, run_fetch]
    cases fetched : machine.fetch with
    | error fault => rw [Machine.step_of_fetch_error waits fetched]
    | ok word =>
      dsimp only
      rw [Machine.toRaw_pc, run_executeAt, Machine.step_of_fetch_ok waits fetched, run_adaptExcept]
      cases Machine.perform (.decode word) machine <;> rfl

lemma run_tick (machine : Chip8.Machine) :
    tick machine.toRaw = .ok () machine.tick.toRaw := by
  have counted (timer : UInt8) : (if 0 < number timer then number timer - 1 else number timer) =
      number (if timer = 0 then 0 else timer - 1) := by
    have := timer.toNat_lt
    by_cases zero : timer = 0
    · subst zero
      rfl
    · have positive : timer.toNat ≠ 0 := fun h => zero (UInt8.toNat_inj.1 h)
      rw [if_neg zero, if_pos (by unfold number; omega), ← number_sub]
      show _ = (number timer - 1) % 256
      unfold number
      omega
  unfold tick
  rw [run_modify, Machine.toRaw_delay, Machine.toRaw_sound, counted, counted]
  rfl

/-- A cycle of the raw machine is a cycle of the machine. -/
theorem mirrors_cycle :
    Mirrors Machine.toRaw (fun fault _ => .error (.fault fault)) id cycle Machine.cycle :=
  mirrors_step.bind fun _ => run_tick

end Chip8.Raw
