import Chip8.Proofs.AlikeSessions
import Chip8.Proofs.Frames

/-!
# Random bytes

An instruction that is there for it takes one byte from the source of random bytes, and nothing else
takes any. So the source has always given as many bytes as such instructions have been executed
(`random_operateAll`), whatever happened in between, and each of them stores the next byte, masked.
Sessions with different sources are in the same state as long as the bytes taken are the same: having
given the same number of bytes is a leeway that instructions keep, and what such an instruction finds
is settled while the sources agree.
-/

namespace Chip8

/-! ## Sources -/

namespace RandomSource

/-- The source after some bytes have been taken from it. -/
def drop (source : RandomSource) (count : Nat) : RandomSource :=
  (fun source : RandomSource => source.next.2)^[count] source

/-- The byte that a source gives after some others. -/
def byte (source : RandomSource) (count : Nat) : UInt8 := (source.drop count).next.1

lemma drop_succ (source : RandomSource) (count : Nat) :
    source.drop (count + 1) = (source.drop count).next.2 :=
  Function.iterate_succ_apply' _ count source

lemma drop_add (source : RandomSource) (first second : Nat) :
    source.drop (first + second) = (source.drop first).drop second := by
  rw [Nat.add_comm]
  exact Function.iterate_add_apply _ second first source

lemma drawn_next (source : RandomSource) : source.next.2.drawn = source.drawn + 1 := by
  obtain ⟨_ | _, drawn⟩ := source <;> rfl

lemma drawn_drop (source : RandomSource) (count : Nat) :
    (source.drop count).drawn = source.drawn + count := by
  induction count with
  | zero => rfl
  | succ count ih => rw [drop_succ, drawn_next, ih, Nat.add_assoc]

lemma drop_ofStream (number : Nat → Int) (count : Nat) :
    (ofStream number).drop count = ⟨.stream number, count⟩ := by
  induction count with
  | zero => rfl
  | succ count ih => rw [drop_succ, ih]; rfl

/-- The bytes of a stream are the low eight bits of its numbers. -/
lemma toNat_byte_ofStream (number : Nat → Int) (count : Nat) :
    ((ofStream number).byte count).toNat = (number count % 256).toNat := by
  unfold byte
  rw [drop_ofStream, ← Raw.number_ofInt]
  rfl

end RandomSource

/-! ## Machines -/

namespace Machine

variable {machine after : Machine} {operation : Operation} {instruction : Instruction}

/-! ### Operations that execute an instruction -/

/-- What an operation executes is performed, and perhaps the timers are counted down afterwards. -/
lemma performed_of_executed? (executed : machine.executed? operation = some instruction) :
    ∃ between, perform instruction machine = .ok () between ∧
      (machine.operate operation = between ∨ machine.operate operation = between.tick) := by
  -- A step that executes something has fetched it.
  have stepping (known : machine.executed? .step = some instruction) :
      ∃ between, perform instruction machine = .ok () between ∧ machine.step = .ok () between := by
    rw [executed?] at known
    cases stepped : machine.step with
    | error fault between =>
      rw [stepped] at known
      cases known
    | ok answer between =>
      rw [stepped] at known
      rcases step_completes_cases stepped with ⟨waits, -⟩ | ⟨word, upcoming, performed⟩
      · dsimp only at known
        rw [upcoming?_of_isWaiting waits] at known
        cases known
      · dsimp only at known
        rw [upcoming] at known
        cases known
        exact ⟨between, performed, rfl⟩
  cases operation
  case step =>
    obtain ⟨between, performed, stepped⟩ := stepping executed
    refine ⟨between, performed, .inl ?_⟩
    rw [operate, stepped]
    rfl
  case cycle =>
    obtain ⟨between, performed, stepped⟩ := stepping executed
    refine ⟨between, performed, .inr ?_⟩
    rw [operate, run_cycle, stepped]
    rfl
  case execute word =>
    rw [executed?, execute, run_adaptExcept] at executed
    cases performed : perform (Instruction.decode (.ofInt word)) machine with
    | error cause between =>
      rw [performed] at executed
      cases executed
    | ok answer between =>
      rw [performed] at executed
      cases executed
      refine ⟨between, performed, .inl ?_⟩
      rw [operate, execute, leaves_adaptExcept, performed]
      rfl
  all_goals cases executed

/-- Without an instruction that is executed, the source of random bytes is left alone. -/
lemma random_of_idle (idle : machine.executed? operation = none) :
    (machine.operate operation).random = machine.random := by
  have stepping (known : machine.executed? .step = none) :
      (leaves machine.step).random = machine.random := by
    cases stepped : machine.step with
    | error fault after =>
      rw [step_of_error stepped]
      rfl
    | ok answer after =>
      rcases step_completes_cases stepped with ⟨-, polled⟩ | ⟨word, upcoming, -⟩
      · have kept := keeps_pollKey (·.random) (fun _ _ => rfl) machine
        rwa [polled] at kept
      · rw [executed?, stepped, upcoming] at known
        cases known
  cases operation
  case step => exact stepping idle
  case cycle =>
    have stepped := stepping idle
    rw [operate, run_cycle]
    cases h : machine.step <;> rw [h] at stepped <;> exact stepped
  case execute word =>
    rw [operate, execute, leaves_adaptExcept]
    cases performed : perform (Instruction.decode (.ofInt word)) machine with
    | error cause after =>
      rw [perform_error performed]
      rfl
    | ok answer after =>
      rw [executed?, execute, run_adaptExcept, performed] at idle
      cases idle
  case assign register number => cases register <;> rfl
  case write address number => exact part_remember (·.random) (fun _ _ => rfl) machine _
  case writeBytes address data => exact part_remember (·.random) (fun _ _ => rfl) machine _
  case loadRom rom => exact part_remember (·.random) (fun _ _ => rfl) machine _
  case setKeys states => exact part_latch (·.random) (fun _ _ => rfl) machine _
  case setKey reference isDown => exact part_latch (·.random) (fun _ _ => rfl) machine _
  all_goals simp only [operate, mapProcessor, tick]

/-! ### One byte each -/

/-- How many instructions that take a random byte are executed by operations. -/
def randomCount (machine : Machine) (operations : List Operation) : Nat :=
  (machine.executedAll operations).countP (·.isRandom)

lemma randomCount_cons (machine : Machine) (operation : Operation) (rest : List Operation) :
    machine.randomCount (operation :: rest) =
      (machine.executed? operation).toList.countP (·.isRandom) +
        (machine.operate operation).randomCount rest := by
  unfold randomCount
  rw [executedAll, List.countP_append]

/-- An instruction takes a random byte if it is there for it. -/
lemma random_perform (performed : perform instruction machine = .ok () after) :
    after.random = machine.random.drop (if instruction.isRandom then 1 else 0) := by
  by_cases taken : instruction.isRandom = true
  · cases instruction
    case random x mask =>
      cases performed
      rfl
    all_goals cases taken
  · have kept := keeps_perform (·.random) (fun _ _ => rfl) (fun yes => absurd yes taken)
      (fun _ _ _ => rfl) (fun _ _ _ => rfl) machine
    rw [performed] at kept
    rw [if_neg taken]
    exact kept

lemma random_operate (machine : Machine) (operation : Operation) :
    (machine.operate operation).random =
      machine.random.drop ((machine.executed? operation).toList.countP (·.isRandom)) := by
  cases executed : machine.executed? operation with
  | none => exact random_of_idle executed
  | some instruction =>
    obtain ⟨between, performed, left⟩ := performed_of_executed? executed
    have taken : (machine.operate operation).random = between.random := by
      rcases left with left | left <;> rw [left]
      rfl
    rw [taken, random_perform performed, Option.toList_some, List.countP_singleton]

/-- The source has given one byte for each such instruction that was executed. -/
theorem random_operateAll (machine : Machine) (operations : List Operation) :
    (machine.operateAll operations).random = machine.random.drop (machine.randomCount operations) := by
  induction operations generalizing machine with
  | nil => rfl
  | cons operation rest ih =>
    rw [randomCount_cons, RandomSource.drop_add, ← random_operate]
    exact ih (machine.operate operation)

/-- What such an instruction stores is the byte that it takes, masked. -/
lemma getV_of_random {x : Register} {mask : UInt8}
    (executed : machine.executed? operation = some (.random x mask)) :
    (machine.operate operation).processor.getV x = machine.random.next.1 &&& mask := by
  obtain ⟨between, performed, left⟩ := performed_of_executed? executed
  have stored : between.processor.getV x = machine.random.next.1 &&& mask := by
    cases performed
    exact Vector.getElem_set_self _
  rcases left with left | left <;> rw [left] <;> exact stored

end Machine

/-! ## Sources that agree for a while -/

/-- From the one source as many bytes may have been taken as from the other. -/
def Leeway.evenSources (random random' : RandomSource) : Leeway where
  source source source' := ∃ count, source = random.drop count ∧ source' = random'.drop count

lemma Leeway.isKept_evenSources (random random' : RandomSource) :
    (Leeway.evenSources random random').IsKept where
  stack := CallStack.isKept_eq
  memory := Memory.isKept_eq
  source := by
    rintro _ _ ⟨count, rfl, rfl⟩
    exact ⟨count + 1, (random.drop_succ count).symm, (random'.drop_succ count).symm⟩

lemma RandomSource.drop_inj {source : RandomSource} {count count' : Nat}
    (same : source.drop count = source.drop count') : count = count' := by
  have drawn := congrArg RandomSource.drawn same
  rw [drawn_drop, drawn_drop] at drawn
  omega

namespace Machine

variable {machine : Machine} {operation : Operation} {random random' : RandomSource}
  {count agreed : Nat}

/-- Taking a random byte cannot fail. -/
lemma executed?_of_random {x : Register} {mask : UInt8}
    (performed : machine.performed? operation = some (.random x mask)) :
    machine.executed? operation = some (.random x mask) := by
  have stepping (known : machine.performed? .step = some (.random x mask)) :
      ∃ after, machine.step = .ok () after := by
    rcases machine.step_cases with ⟨fault, -, stepped⟩ | ⟨-, after, stepped⟩
    · exact absurd rfl (fault?_of_step_error stepped known)
    · exact ⟨after, stepped⟩
  cases operation
  case step =>
    obtain ⟨after, stepped⟩ := stepping performed
    rw [executed?, stepped]
    exact performed
  case cycle =>
    obtain ⟨after, stepped⟩ := stepping performed
    rw [executed?, stepped]
    exact performed
  case execute word =>
    have decoded : Instruction.decode (.ofInt word) = .random x mask := Option.some.inj performed
    rw [executed?, execute, run_adaptExcept, decoded]
    rfl
  all_goals cases performed

section
variable (agree : ∀ earlier < agreed, random'.byte earlier = random.byte earlier)
include agree

/-- An operation finds nothing different in the two sources as long as they agree. -/
lemma settles_of_agree (known : machine.random = random.drop count)
    (few : count + (machine.executed? operation).toList.countP (·.isRandom) ≤ agreed) :
    machine.Settles (.evenSources random random') operation where
  drawing x y sprite wrap _ same := by
    obtain rfl : machine.spritesWrap = wrap := same
    rfl
  byte := by
    rintro x mask _ performed ⟨count', same, rfl⟩
    obtain rfl : count = count' := RandomSource.drop_inj (known.symm.trans same)
    rw [executed?_of_random performed] at few
    rw [known]
    exact agree count few

lemma throughout_of_agree {operations : List Operation} (known : machine.random = random.drop count)
    (few : count + machine.randomCount operations ≤ agreed) :
    machine.Throughout (Settles (.evenSources random random')) operations := by
  induction operations generalizing machine count with
  | nil => trivial
  | cons operation rest ih =>
    rw [randomCount_cons] at few
    refine ⟨settles_of_agree agree known (by omega), ih ?_ (Nat.add_assoc .. ▸ few)⟩
    rw [random_operate, known, RandomSource.drop_add]

end

end Machine

namespace Session

variable {random random' : RandomSource} {settings : Settings}
  {image : Except Error (List UInt8)} {initial : Session}

/-- The session with another source of random bytes. -/
def withRandom (session : Session) (random : RandomSource) : Session :=
  session.mapMachine (·.withRandom random)

/-- The source only goes into the machine. -/
lemma start_withRandom (random' : RandomSource)
    (started : start settings random image = .ok initial) :
    start settings random' image = .ok (initial.withRandom random') ∧
      initial.machine.random = random := by
  obtain ⟨rom, positive, read, rfl⟩ := start_eq_ok_iff.1 started
  exact ⟨start_eq_ok_iff.2 ⟨rom, positive, read, rfl⟩, rfl⟩

/-- As long as the bytes that are taken are the same, a host is told the same, and finds sessions the
same but for their sources, from which as many bytes have been taken. -/
lemma dialogue_withRandom {agreed : Nat} (known : initial.machine.random = random)
    (agree : ∀ earlier < agreed, random'.byte earlier = random.byte earlier)
    (requests : List Request)
    (few : initial.machine.randomCount (chronicle initial (requests.flatMap Request.operations)) ≤
      agreed) :
    dialogue (initial.withRandom random') requests = dialogue initial requests ∧
      (initial.withRandom random').serveAll requests = (initial.serveAll requests).withRandom
        (random'.drop (initial.machine.randomCount
          (chronicle initial (requests.flatMap Request.operations)))) := by
  have near : Near (.evenSources random random') True initial (initial.withRandom random') :=
    ⟨rfl, rfl, ⟨rfl, rfl, rfl, ⟨0, known, rfl⟩, rfl⟩, ⟨rfl, rfl, rfl, fun _ => rfl⟩, rfl, rfl⟩
  have begun : initial.machine.random = random.drop 0 := known
  have settles := Machine.throughout_of_agree agree begun ((Nat.zero_add _).le.trans few)
  have live {stack stack' : CallStack} (same : stack = stack') : stack'.live = stack.live :=
    congrArg CallStack.live same.symm
  obtain ⟨told, near'⟩ := near_dialogue (Leeway.isKept_evenSources random random') Eq.symm live near
    requests settles
  refine ⟨told, near'.eq_mapMachine ?_⟩
  obtain ⟨count, left, right⟩ := near'.machine.random
  have taken : (initial.serveAll requests).machine.random = random.drop (initial.machine.randomCount
      (chronicle initial (requests.flatMap Request.operations))) := by
    rw [serveAll_eq, machine_operateAll, Machine.random_operateAll, known]
  rw [RandomSource.drop_inj (taken.symm.trans left), ← right]
  exact near'.machine.eq_of_parts rfl near'.machine.stack near'.machine.memory rfl
    near'.machine.spritesWrap

/-- Every instruction that is there for it takes one random byte, and nothing else takes any. Whatever
a host does with a session, as many numbers have been taken from the stream since the session was
started as such instructions have been executed, and each of them stores the low eight bits of the
next number, masked.

So it does not matter which numbers come later. Another session that is started with a stream of the
same bytes up to some number tells a host the same, and is found in the same state but for the stream,
as long as no more than these are taken. Runs may be cut anywhere, down to single cycles, so this is
also true in the midst of them. -/
theorem one_random_byte_each {number : Nat → Int}
    (started : start settings (.ofStream number) image = .ok initial) :
    (∀ operations : List Operation,
      let work := initial.chronicle operations
      let session := initial.operateAll operations
      session.machine = initial.machine.operateAll work ∧
      session.machine.random = ⟨.stream number, initial.machine.randomCount work⟩ ∧
      ∀ before operation later, work = before ++ operation :: later →
        let machine := initial.machine.operateAll before
        ∀ x mask, machine.executed? operation = some (.random x mask) →
          ((machine.operate operation).processor.getV x).toNat =
            (number (initial.machine.randomCount before) % 256).toNat &&& mask.toNat) ∧
    ∀ (number' : Nat → Int) (agreed : Nat),
      (∀ earlier < agreed, number' earlier % 256 = number earlier % 256) →
        ∃ initial', start settings (.ofStream number') image = .ok initial' ∧
          ∀ requests : List Request,
            let taken := initial.machine.randomCount
              (initial.chronicle (requests.flatMap Request.operations))
            taken ≤ agreed →
              dialogue initial' requests = dialogue initial requests ∧
                initial'.serveAll requests =
                  (initial.serveAll requests).withRandom ⟨.stream number', taken⟩ := by
  obtain ⟨-, known⟩ := start_withRandom (.ofStream number) started
  constructor
  · intro operations work session
    have left : session.machine = initial.machine.operateAll work :=
      machine_operateAll operations initial
    refine ⟨left, ?_, ?_⟩
    · rw [left, Machine.random_operateAll, known, RandomSource.drop_ofStream]
    · rintro before operation later - machine x mask executed
      have source : machine.random = _ := Machine.random_operateAll initial.machine before
      rw [Machine.getV_of_random executed, UInt8.toNat_and, source, known,
        ← RandomSource.toNat_byte_ofStream]
      rfl
  · intro number' agreed agree
    obtain ⟨started', -⟩ := start_withRandom (.ofStream number') started
    refine ⟨_, started', ?_⟩
    intro requests taken few
    rw [← RandomSource.drop_ofStream]
    refine dialogue_withRandom known (fun earlier before => ?_) requests few
    rw [← UInt8.toNat_inj, RandomSource.toNat_byte_ofStream, RandomSource.toNat_byte_ofStream,
      agree earlier before]

/-- A program that throws three dice of different sizes, over and over. -/
def diceRom : Rom where
  bytes := [0xC0, 0xFF, 0xC1, 0x0F, 0xC2, 0xF0, 0x12, 0x00]
  fits := by decide

/-- A session that throws dice with the numbers of a stream. -/
def dicing (number : Nat → Int) : Session :=
  powerOn diceRom 1 Nat.one_pos (.ofStream number) false

/-- Two throws, then one more after a reset. -/
def threeThrows : List Operation := [.run 2 false, .reset, .run 1 false]

/-- The throw after the reset is the third one, and stores the third number, 1995 or 203 modulo 256. A
stream that has the same three bytes and then others gives the same, as long as there is no fourth. -/
theorem one_random_byte_each_after_reset :
    let number : Nat → Int := fun count => 1000 * count - 5
    let number' : Nat → Int := fun count => if count < 3 then number count + 256 else 0
    let session := (dicing number).operateAll threeThrows
    session.machine.random = ⟨.stream number, 3⟩ ∧
    (session.machine.processor.getV .first).toNat = 203 ∧
    (dicing number').operateAll threeThrows = session.withRandom ⟨.stream number', 3⟩ := by
  intro number number' session
  let before : List Machine.Operation := [.step, .tick, .step, .tick, .resetMemory,
    .loadRom diceRom.bytes, .clearScreen, .releaseAll, .resetProcessor]
  have started : start {} (.ofStream number) (.ok diceRom.bytes) = .ok (dicing number) := rfl
  have worked : (dicing number).chronicle threeThrows = before ++ [.step, .tick] := by
    decide +kernel
  have early : (dicing number).machine.randomCount before = 2 := by decide +kernel
  have all : (dicing number).machine.randomCount ((dicing number).chronicle threeThrows) = 3 := by
    rw [worked]
    decide +kernel
  obtain ⟨turns, agreeing⟩ := one_random_byte_each started
  obtain ⟨left, source, stores⟩ := turns threeThrows
  have stored := stores before .step [.tick] worked .first 0xFF (by decide +kernel)
  rw [early] at stored
  obtain ⟨other, started', same⟩ := agreeing number' 3 fun earlier few => by
    simp only [number', if_pos few]
    omega
  obtain rfl : dicing number' = other := Except.ok.inj started'
  obtain ⟨-, same⟩ := same (threeThrows.map .operate) (by decide +kernel)
  refine ⟨source.trans (by rw [all]), ?_, ?_⟩
  · have shown : session.machine.processor.getV .first =
        (((dicing number).machine.operateAll before).operate .step).processor.getV .first := by
      rw [left, worked]
      rfl
    rw [shown, stored]
    decide +kernel
  · have plain : (threeThrows.map Request.operate).flatMap Request.operations = threeThrows := rfl
    rw [serveAll_eq, serveAll_eq, plain, all] at same
    exact same

end Session

end Chip8
