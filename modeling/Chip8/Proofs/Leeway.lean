import Chip8.Proofs.Agreement
import Chip8.Proofs.Execution
import Chip8.Proofs.Independence

/-!
# Machines that differ within a leeway

Four parts of a machine can be changed without most instructions noticing: the stack, memory, the source
of random bytes, and whether sprites wrap around the edges. A leeway says how far two machines may differ
in these parts, and machines that differ no further, and in nothing else, are near each other (`Near`).

Near machines behave alike. An instruction gives the same result on both and leaves near machines
(`agree_perform`), provided that pushing, writing and taking a random byte keep the leeway (`IsKept`)
and that the instruction finds the same on both where it does look: in the block that it reads, in the
sprite that it draws and in the random byte that it takes (`FindsSame`). So do steps and all other
operations (`agree_respond`).
-/

namespace Chip8

/-! ## Leeways -/

/-- How far the parts of two machines may differ. By default they must be equal. -/
structure Leeway where
  stack : CallStack → CallStack → Prop := Eq
  memory : Memory → Memory → Prop := Eq
  source : RandomSource → RandomSource → Prop := Eq
  /-- Whether sprites wrap around the edges. -/
  policy : Bool → Bool → Prop := Eq

/-- Related stacks have room or addresses at the same time, give the same addresses and stay related. -/
structure CallStack.IsKept (related : CallStack → CallStack → Prop) : Prop where
  refl : ∀ stack, related stack stack
  push : ∀ {left right}, related left right → ∀ address,
    Option.Rel related (left.push? address) (right.push? address)
  pop : ∀ {left right}, related left right →
    Option.Rel (fun top top' => top'.1 = top.1 ∧ related top.2 top'.2) left.pop? right.pop?

/-- Related memories hold images of the same size and stay related when the same is written to both. -/
structure Memory.IsKept (related : Memory → Memory → Prop) : Prop where
  refl : ∀ memory, related memory memory
  imageSize : ∀ {left right}, related left right → right.imageSize = left.imageSize
  overwrite : ∀ {left right}, related left right → ∀ start bytes imageSize,
    related ⟨overwrite left.data start bytes, imageSize⟩ ⟨overwrite right.data start bytes, imageSize⟩

/-- Related sources stay related when a byte is taken from both. -/
def RandomSource.IsKept (related : RandomSource → RandomSource → Prop) : Prop :=
  ∀ {left right}, related left right → related left.next.2 right.next.2

lemma CallStack.isKept_eq : CallStack.IsKept Eq where
  refl _ := rfl
  push := by
    rintro stack _ rfl address
    cases stack.push? address with
    | none => exact .none
    | some pushed => exact .some rfl
  pop := by
    rintro stack _ rfl
    cases stack.pop? with
    | none => exact .none
    | some top => exact .some ⟨rfl, rfl⟩

lemma Memory.isKept_eq : Memory.IsKept Eq where
  refl _ := rfl
  imageSize := by
    rintro memory _ rfl
    rfl
  overwrite := by
    rintro memory _ rfl start bytes imageSize
    rfl

lemma RandomSource.isKept_eq : RandomSource.IsKept Eq := by
  rintro source _ rfl
  rfl

/-- What instructions do keeps the leeway. -/
structure Leeway.IsKept (leeway : Leeway) : Prop where
  stack : CallStack.IsKept leeway.stack
  memory : Memory.IsKept leeway.memory
  source : RandomSource.IsKept leeway.source

namespace Machine

/-! ## Near machines -/

/-- The machine with these parts taken from another. -/
def borrow (machine other : Machine) : Machine :=
  { machine with
    processor := { machine.processor with stack := other.processor.stack }
    memory := other.memory
    random := other.random
    spritesWrap := other.spritesWrap }

/-- The machines differ no further than the leeway allows. -/
structure Near (leeway : Leeway) (left right : Machine) : Prop where
  same : right = left.borrow right
  stack : leeway.stack left.processor.stack right.processor.stack
  memory : leeway.memory left.memory right.memory
  random : leeway.source left.random right.random
  spritesWrap : leeway.policy left.spritesWrap right.spritesWrap

variable {leeway : Leeway} {left right : Machine} {instruction : Instruction}

section
variable (near : Near leeway left right)
include near

lemma Near.processor : right.processor =
    { left.processor with stack := right.processor.stack } :=
  congrArg Machine.processor near.same

lemma Near.getV (x : Register) : right.processor.getV x = left.processor.getV x := by
  rw [near.same]
  rfl

lemma Near.index : right.processor.index = left.processor.index := by
  rw [near.same]
  rfl

lemma Near.pc : right.processor.pc = left.processor.pc := by
  rw [near.same]
  rfl

lemma Near.screen : right.screen = left.screen := by
  rw [near.same]
  rfl

lemma Near.keypad : right.keypad = left.keypad := by
  rw [near.same]
  rfl

lemma Near.isWaiting : right.isWaiting = left.isWaiting := by
  rw [near.same]
  rfl

/-- The right machine is any that has its four parts and is otherwise the left one. -/
lemma Near.eq_of_parts {other : Machine} (rest : other.borrow right = left.borrow right)
    (stack : other.processor.stack = right.processor.stack) (memory : other.memory = right.memory)
    (random : other.random = right.random) (spritesWrap : other.spritesWrap = right.spritesWrap) :
    right = other :=
  calc right = left.borrow right := near.same
    _ = other.borrow right := rest.symm
    _ = other := by
      unfold Machine.borrow
      rw [← stack, ← memory, ← random, ← spritesWrap]

/-- What borrows from itself in vain is near what borrows from the other machine. -/
lemma Near.borrow {after : Machine} (kept : after = after.borrow left) :
    Near leeway after (after.borrow right) where
  same := rfl
  stack := by
    rw [kept]
    exact near.stack
  memory := by
    rw [kept]
    exact near.memory
  random := by
    rw [kept]
    exact near.random
  spritesWrap := by
    rw [kept]
    exact near.spritesWrap

/-- A change that has nothing to do with the four parts leaves near machines. -/
lemma Near.map (change : Machine → Machine)
    (apart : ∀ machine other, change (machine.borrow other) = (change machine).borrow other) :
    Near leeway (change left) (change right) := by
  -- A machine that borrows from itself is itself.
  have kept : change left = (change left).borrow left := apart left left
  have moved : change right = (change left).borrow right := by
    rw [← apart left right, ← near.same]
  rw [moved]
  exact near.borrow kept

lemma Near.withStack {stack stack' : CallStack} (related : leeway.stack stack stack') :
    Near leeway (left.mapProcessor ({ · with stack }))
      (right.mapProcessor ({ · with stack := stack' })) where
  same := by
    rw [near.same]
    rfl
  stack := related
  memory := near.memory
  random := near.random
  spritesWrap := near.spritesWrap

lemma Near.withProcessor (processor : Processor)
    (related : leeway.stack processor.stack processor.stack) :
    Near leeway { left with processor } { right with processor } where
  same := by
    rw [near.same]
    rfl
  stack := related
  memory := near.memory
  random := near.random
  spritesWrap := near.spritesWrap

lemma Near.withMemory {memory memory' : Memory} (related : leeway.memory memory memory') :
    Near leeway { left with memory } { right with memory := memory' } where
  same := by
    rw [near.same]
    rfl
  stack := near.stack
  memory := related
  random := near.random
  spritesWrap := near.spritesWrap

lemma Near.withRandom {random random' : RandomSource} (related : leeway.source random random') :
    Near leeway { left with random } { right with random := random' } where
  same := by
    rw [near.same]
    rfl
  stack := near.stack
  memory := near.memory
  random := related
  spritesWrap := near.spritesWrap

end

/-! ## Actions -/

/-- What does the same whatever it borrows leaves near machines. -/
lemma agree_of_ignores {α : Type} {action : Action α}
    (ignores : ∀ other, Ignores (·.borrow other) action) (near : Near leeway left right) :
    Agree (Near leeway) (action left) (action right) := by
  have mirrored : action (left.borrow right) = _ := ignores right left
  -- Borrowing from itself the machine is itself, so what the action leaves does so in vain.
  have still : action left = _ := ignores left left
  rw [← near.same] at mirrored
  rw [mirrored]
  cases ended : action left with
  | ok a after =>
    rw [ended] at still
    have kept : after = after.borrow left := (EStateM.Result.ok.inj still).2
    exact .ok a (near.borrow kept)
  | error cause after =>
    rw [ended] at still
    have kept : after = after.borrow left := (EStateM.Result.error.inj still).2
    exact .error cause (near.borrow kept)

section
variable (kept : leeway.IsKept) (near : Near leeway left right)
include kept near

lemma agree_push (address : Nat) :
    Agree (Near leeway) (Action.push address left) (Action.push address right) := by
  have pushed := kept.stack.push near.stack address
  rw [run_push, run_push]
  generalize left.processor.stack.push? address = first at pushed
  generalize right.processor.stack.push? address = second at pushed
  cases pushed with
  | none => exact .error Fault.Cause.stackOverflow near
  | some related => exact .ok () (near.withStack related)

lemma agree_pop : Agree (Near leeway) (Action.pop left) (Action.pop right) := by
  have popped := kept.stack.pop near.stack
  rw [run_pop, run_pop]
  generalize left.processor.stack.pop? = first at popped
  generalize right.processor.stack.pop? = second at popped
  cases popped with
  | none => exact .error Fault.Cause.stackUnderflow near
  | @some top top' both =>
    obtain ⟨address, stack⟩ := top
    obtain ⟨address', stack'⟩ := top'
    obtain ⟨rfl, related⟩ := both
    exact .ok _ (near.withStack related)

/-- Writing goes by the address alone, not by what memory holds. -/
lemma agree_writeBytes (address : Int) (bytes : List UInt8) :
    (∃ memory memory', left.memory.writeBytes address bytes = .ok memory ∧
        right.memory.writeBytes address bytes = .ok memory' ∧ leeway.memory memory memory') ∨
      ∃ cause, left.memory.writeBytes address bytes = .error cause ∧
        right.memory.writeBytes address bytes = .error cause := by
  have size := kept.memory.imageSize near.memory
  unfold Memory.writeBytes
  split
  · left
    refine ⟨_, _, rfl, rfl, ?_⟩
    rw [size]
    exact kept.memory.overwrite near.memory _ _ _
  · right
    exact ⟨_, rfl, rfl⟩

lemma agree_writeBlock (bytes : List UInt8) :
    Agree (Near leeway) (Action.writeBlock bytes left) (Action.writeBlock bytes right) := by
  rw [run_writeBlock, run_writeBlock, near.index]
  rcases agree_writeBytes kept near left.processor.index.toNat bytes with
    ⟨memory, memory', written, written', related⟩ | ⟨cause, refused, refused'⟩
  · rw [written, written']
    exact .ok () (near.withMemory related)
  · rw [refused, refused']
    exact .error cause near

lemma agree_randomByte (byte : right.random.next.1 = left.random.next.1) :
    Agree (Near leeway) (Action.randomByte left) (Action.randomByte right) := by
  have taken (machine : Machine) : Action.randomByte machine =
      .ok machine.random.next.1 { machine with random := machine.random.next.2 } := rfl
  rw [taken, taken, byte]
  exact .ok _ (near.withRandom (kept.source near.random))

end

lemma ignores_isDown (other : Machine) (x : Register) :
    Ignores (·.borrow other) (Action.isDown x) := by
  intro machine
  have same : (machine.borrow other).processor.getV x = machine.processor.getV x := rfl
  rw [run_isDown, run_isDown, same]
  split <;> rfl

lemma ignores_pollKey (other : Machine) : Ignores (·.borrow other) Action.pollKey := by
  intro machine
  have same : (machine.borrow other).keypad = machine.keypad := rfl
  rw [run_pollKey, run_pollKey, same]
  cases machine.keypad.lowestDown? <;> rfl

end Machine

/-! ## Instructions -/

/-- How many bytes an instruction reads from the index register on. -/
def Instruction.blockRead : Instruction → Nat
  | draw _ _ height => height
  | loadRegisters x => x + 1
  | _ => 0

namespace Machine

/-- The sprite that an instruction draws, and where, if it draws one. -/
def sprite? (machine : Machine) : Instruction → Option (UInt8 × UInt8 × List UInt8)
  | .draw x y height => match machine.memory.readBytes machine.processor.index.toNat height with
    | .ok sprite => some (machine.processor.getV x, machine.processor.getV y, sprite)
    | .error _ => none
  | _ => none

lemma sprite?_draw {machine : Machine} {height : Fin 16} {sprite : List UInt8} (x y : Register)
    (read : machine.memory.readBytes machine.processor.index.toNat height = .ok sprite) :
    machine.sprite? (.draw x y height) =
      some (machine.processor.getV x, machine.processor.getV y, sprite) := by
  simp only [sprite?, read]

/-- Draws a sprite of bytes on the screen, with sprites wrapping or not. -/
def drawing (machine : Machine) (x y : UInt8) (sprite : List UInt8) (wrap : Bool) : Bool × Screen :=
  machine.screen.draw x.toNat y.toNat (sprite.map fun byte => (byte.toNat : Int)) wrap

/-- Where an instruction looks at memory, draws or takes a random byte, it finds the same on both
machines. -/
structure FindsSame (instruction : Instruction) (left right : Machine) : Prop where
  block : right.memory.readBytes left.processor.index.toNat instruction.blockRead =
    left.memory.readBytes left.processor.index.toNat instruction.blockRead
  drawing : ∀ x y sprite, left.sprite? instruction = some (x, y, sprite) →
    left.drawing x y sprite right.spritesWrap = left.drawing x y sprite left.spritesWrap
  byte : ∀ x mask, instruction = .random x mask → right.random.next.1 = left.random.next.1

lemma agree_drawSprite (near : Near leeway left right) (x y : UInt8) (sprite : List UInt8)
    (same : left.drawing x y sprite right.spritesWrap = left.drawing x y sprite left.spritesWrap) :
    Agree (Near leeway) (Action.drawSprite x y sprite left) (Action.drawSprite x y sprite right) := by
  have drawn (machine : Machine) : Action.drawSprite x y sprite machine =
      .ok (machine.drawing x y sprite machine.spritesWrap).1
        { machine with screen := (machine.drawing x y sprite machine.spritesWrap).2 } := rfl
  have screens : right.drawing x y sprite right.spritesWrap =
      left.drawing x y sprite left.spritesWrap := by
    rw [← same]
    unfold drawing
    rw [near.screen]
  rw [drawn, drawn, screens]
  exact .ok _ (near.map ({ · with screen := _ }) fun _ _ => rfl)

/-- Near machines give the same result of an instruction and are near machines afterwards. -/
theorem agree_perform (kept : leeway.IsKept) (near : Near leeway left right)
    (found : FindsSame instruction left right) :
    Agree (Near leeway) (perform instruction left) (perform instruction right) := by
  cases instruction
  case ret =>
    exact (agree_pop kept near).bind fun _ _ _ near' => agree_of_ignores (fun _ _ => rfl) near'
  case call target =>
    rw [perform, run_bind, run_bind, run_get, run_get]
    dsimp only
    rw [near.pc]
    exact (agree_push kept near _).bind fun _ _ _ near' => agree_of_ignores (fun _ _ => rfl) near'
  case skipIfDown x =>
    exact agree_of_ignores (fun other => (ignores_isDown other x).bind fun _ _ => rfl) near
  case skipIfUp x =>
    exact agree_of_ignores (fun other => (ignores_isDown other x).bind fun _ _ => rfl) near
  case random x mask =>
    exact (agree_randomByte kept near (found.byte x mask rfl)).bind fun _ _ _ near' =>
      agree_of_ignores (fun _ _ => rfl) near'
  case draw x y height =>
    have block : right.memory.readBytes left.processor.index.toNat height =
        left.memory.readBytes left.processor.index.toNat height := found.block
    rw [perform, run_bind, run_bind, run_readBlock, run_readBlock, near.index, block]
    cases read : left.memory.readBytes left.processor.index.toNat height with
    | error cause => exact .error cause near
    | ok sprite =>
      have drawn := agree_drawSprite near _ _ sprite (found.drawing _ _ _ (sprite?_draw x y read))
      dsimp only
      rw [run_bind, run_bind, run_getV, run_getV]
      dsimp only
      rw [run_bind, run_bind, run_getV, run_getV, near.getV, near.getV]
      exact drawn.bind fun _ _ _ near' => agree_of_ignores (fun _ _ => rfl) near'
  case storeDecimal x =>
    rw [perform, run_bind, run_bind, run_getV, run_getV, near.getV]
    exact (agree_writeBlock kept near _).bind fun _ _ _ near' =>
      agree_of_ignores (fun _ _ => rfl) near'
  case storeRegisters x =>
    rw [perform, run_bind, run_bind, run_get, run_get]
    dsimp only
    rw [near.processor]
    exact (agree_writeBlock kept near _).bind fun _ _ _ near' =>
      agree_of_ignores (fun _ _ => rfl) near'
  case loadRegisters x =>
    have block : right.memory.readBytes left.processor.index.toNat (x + 1 : Nat) =
        left.memory.readBytes left.processor.index.toNat (x + 1 : Nat) := found.block
    rw [perform, run_bind, run_bind, run_readBlock, run_readBlock, near.index, block]
    cases left.memory.readBytes left.processor.index.toNat (x + 1 : Nat) with
    | error cause => exact .error cause near
    | ok bytes =>
      dsimp only
      exact agree_of_ignores (fun _ _ => rfl) near
  case awaitKey x =>
    refine agree_of_ignores (fun other machine => ?_) near
    exact ignores_pollKey other
      (machine.mapProcessor ({ · with awaitsKey := true, keyRegister := x }))
  all_goals exact agree_of_ignores (fun _ _ => rfl) near

/-! ## Cycles -/

section
variable (kept : leeway.IsKept) (near : Near leeway left right)
include kept near

lemma agree_step (fetched : left.isWaiting = false → right.fetch = left.fetch)
    (found : ∀ word, left.upcoming? = some word →
      FindsSame (Instruction.decode word) left right) :
    Agree (Near leeway) left.step right.step := by
  have waits' := near.isWaiting
  cases waits : left.isWaiting with
  | true =>
    rw [waits] at waits'
    rw [step_of_isWaiting waits, step_of_isWaiting waits']
    exact (agree_of_ignores ignores_pollKey near).adaptExcept _
  | false =>
    have fetch := fetched waits
    rw [waits] at waits'
    cases read : left.fetch with
    | error fault =>
      rw [step_of_fetch_error waits read, step_of_fetch_error waits' (fetch.trans read)]
      exact .error fault near
    | ok word =>
      have upcoming := upcoming?_of_fetch_ok waits read
      rw [step_of_fetch_ok waits read, step_of_fetch_ok waits' (fetch.trans read), near.pc]
      exact (agree_perform kept near (found word upcoming)).adaptExcept _

lemma agree_cycle (fetched : left.isWaiting = false → right.fetch = left.fetch)
    (found : ∀ word, left.upcoming? = some word →
      FindsSame (Instruction.decode word) left right) :
    Agree (Near leeway) left.cycle right.cycle := by
  refine (agree_step kept near fetched found).bind fun _ left' right' near' => ?_
  exact .ok () (near'.map (·.tick) fun _ _ => rfl)

lemma agree_execute (word : UInt16) (found : FindsSame (Instruction.decode word) left right) :
    Agree (Near leeway) (left.execute word) (right.execute word) := by
  unfold execute
  dsimp only
  rw [near.pc]
  exact (agree_perform kept near found).adaptExcept _

end

/-! ## Operations -/

/-- The instruction that an operation performs, if it performs one. -/
def performed? (machine : Machine) : Operation → Option Instruction
  | .step | .cycle => machine.upcoming?.map Instruction.decode
  | .execute word => some (Instruction.decode (.ofInt word))
  | _ => none

/-- The sprite that an operation draws as the machine is set up, and where, if it draws one. -/
def drawn? (machine : Machine) (operation : Operation) : Option (UInt8 × UInt8 × List UInt8) :=
  machine.performed? operation >>= machine.sprite?

/-- Within the leeway, what an operation draws is the same under every policy, and the random byte that
it takes is the same from every source. -/
structure Settles (leeway : Leeway) (machine : Machine) (operation : Operation) : Prop where
  drawing : ∀ x y sprite wrap, machine.drawn? operation = some (x, y, sprite) →
    leeway.policy machine.spritesWrap wrap →
      machine.drawing x y sprite wrap = machine.drawing x y sprite machine.spritesWrap
  byte : ∀ x mask source, machine.performed? operation = some (.random x mask) →
    leeway.source machine.random source → source.next.1 = machine.random.next.1

/-- Where the policies are equal and the sources give the same bytes there is nothing to settle. -/
lemma settles_of_policy (equal : ∀ {wrap wrap'}, leeway.policy wrap wrap' → wrap' = wrap)
    (machine : Machine) (operation : Operation)
    (bytes : ∀ {source source'}, leeway.source source source' → source'.next.1 = source.next.1 :=
      by rintro source _ rfl; rfl) : Settles leeway machine operation where
  drawing x y sprite wrap _ allowed := by rw [equal allowed]
  byte _ _ _ _ related := bytes related

/-- A cycle finds what its step finds. -/
lemma Settles.step {machine : Machine} (settles : machine.Settles leeway .cycle) :
    machine.Settles leeway .step :=
  ⟨settles.drawing, settles.byte⟩

section
variable (kept : leeway.IsKept)
  (whole : ∀ {memory memory'}, leeway.memory memory memory' → memory' = memory)
  (near : Near leeway left right)

include whole near in
/-- With the same memory an instruction finds the same, if what it draws and takes is settled. -/
lemma Near.findsSame {operation : Operation} (settles : left.Settles leeway operation)
    (performed : left.performed? operation = some instruction) :
    FindsSame instruction left right where
  block := by rw [whole near.memory]
  drawing x y sprite drawn := by
    refine settles.drawing x y sprite _ ?_ near.spritesWrap
    rw [drawn?, performed]
    exact drawn
  byte x mask random := settles.byte x mask _ (performed.trans (congrArg some random)) near.random

include whole near in
lemma Near.fetch : right.fetch = left.fetch := by
  unfold Machine.fetch
  rw [whole near.memory, near.pc]

include whole near in
lemma Near.upcoming? : right.upcoming? = left.upcoming? := by
  unfold Machine.upcoming?
  rw [near.isWaiting, near.fetch whole]

include kept whole near in
lemma agree_step_of_settles (settles : left.Settles leeway .step) :
    Agree (Near leeway) left.step right.step :=
  agree_step kept near (fun _ => near.fetch whole) fun word upcoming =>
    near.findsSame whole settles (by rw [performed?, upcoming]; rfl)

include kept whole near in
lemma agree_cycle_of_settles (settles : left.Settles leeway .cycle) :
    Agree (Near leeway) left.cycle right.cycle :=
  agree_cycle kept near (fun _ => near.fetch whole) fun word upcoming =>
    near.findsSame whole settles (by rw [performed?, upcoming]; rfl)

/-- What changes a machine by something that is the same on both, if it can. -/
lemma agree_attempt {ε γ : Type} (error : ε → Error) (source : Machine → Except ε γ)
    (put : γ → Machine → Machine) (near : Near leeway left right)
    (same : source right = source left)
    (puts : ∀ value, Near leeway (put value left) (put value right)) :
    Agree (Near leeway) (attempt error (fun machine => (source machine).map (put · machine)) left)
      (attempt error (fun machine => (source machine).map (put · machine)) right) := by
  unfold attempt
  dsimp only
  rw [same]
  cases source left with
  | error cause => exact .error (error cause) near
  | ok value => exact .ok Reply.done (puts value)

include kept whole near in
/-- Near machines with the same memory respond alike to an operation and stay near. -/
theorem agree_respond {operation : Operation} (settles : left.Settles leeway operation) :
    Agree (Near leeway) (respond operation left) (respond operation right) := by
  have memory := whole near.memory
  cases operation
  case step =>
    have stepped := agree_step_of_settles kept whole near settles
    exact (stepped.adaptExcept Error.fault).map _
  case cycle =>
    have cycled := agree_cycle_of_settles kept whole near settles
    exact (cycled.adaptExcept Error.fault).map _
  case execute word =>
    have executed := agree_execute kept near (.ofInt word) (near.findsSame whole settles rfl)
    exact (executed.adaptExcept Error.fault).map _
  case fetch =>
    unfold respond
    dsimp only
    rw [near.fetch whole]
    cases left.fetch with
    | error fault => exact .error (Error.fault fault) near
    | ok word => exact .ok (Reply.word word) near
  case tick => exact .ok Reply.done (near.map (·.tick) fun _ _ => rfl)
  case resetProcessor => exact .ok Reply.done (near.withProcessor .powerOn (kept.stack.refl _))
  case assign register number =>
    exact .ok Reply.done (near.map (·.mapProcessor (·.assign register number))
      fun _ _ => by cases register <;> rfl)
  case assignV register number =>
    exact .ok Reply.done (near.map (·.mapProcessor (·.setV register (.ofInt number))) fun _ _ => rfl)
  case write address number =>
    exact agree_attempt _ (·.memory.write address (.ofInt number))
      (fun memory machine => { machine with memory }) near (by rw [memory])
      fun memory => near.withMemory (kept.memory.refl memory)
  case writeBytes address data =>
    exact agree_attempt _ (·.memory.writeBytes address (data.map .ofInt))
      (fun memory machine => { machine with memory }) near (by rw [memory])
      fun memory => near.withMemory (kept.memory.refl memory)
  case loadRom rom =>
    refine agree_attempt _ (fun _ => Rom.ofBytes rom)
      (fun rom machine => { machine with memory := machine.memory.load rom }) near rfl fun rom => ?_
    rw [memory]
    exact near.withMemory (kept.memory.refl _)
  case resetMemory => exact .ok Reply.done (near.withMemory (kept.memory.refl .blank))
  case draw x y sprites wrap =>
    unfold respond
    dsimp only
    rw [near.screen]
    exact .ok _ (near.map ({ · with screen := (left.screen.draw x y sprites wrap).2 })
      fun _ _ => rfl)
  case clearScreen => exact .ok Reply.done (near.map ({ · with screen := .blank }) fun _ _ => rfl)
  case acknowledge =>
    exact .ok Reply.done (near.map (fun machine => { machine with screen := machine.screen.acknowledge })
      fun _ _ => rfl)
  case setKeys states =>
    exact agree_attempt _ (fun _ => Keypad.ofList states)
      (fun keypad machine => { machine with keypad }) near rfl
      fun keypad => near.map ({ · with keypad }) fun _ _ => rfl
  case setKey reference isDown =>
    exact agree_attempt _ (fun _ => reference.resolve)
      (fun key machine => { machine with keypad := machine.keypad.set key isDown }) near rfl
      fun key => near.map (fun machine => { machine with keypad := machine.keypad.set key isDown })
        fun _ _ => rfl
  case releaseAll =>
    exact .ok Reply.done (near.map ({ · with keypad := .released }) fun _ _ => rfl)

end

end Machine

end Chip8
