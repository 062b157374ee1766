import Chip8.Proofs.NearDialogues

/-!
# Sessions that look alike

Two machines are twins if they differ in nothing but where their random bytes come from, and will draw
the same bytes (`Twins`). Two sessions are alike if they have the same image and the same counters,
machines that are twins and debuggers that agree on everything but their last reports (`Alike`). The last
reports agree as soon as something has been reported or forgotten on both sides.

Instructions that draw the same bytes go on drawing the same bytes, so this is a leeway that they keep.
Sessions that are alike respond alike to every operation and stay alike (`agree_respond`), and so they do
after any number of operations (`alike_operateAll`).
-/

namespace Chip8

variable {told : Prop}

/-! ## Sources -/

/-- Two sources will give the same bytes. -/
def RandomSource.SameBytes (left right : RandomSource) : Prop :=
  ∀ count, left.take count = right.take count

namespace RandomSource

lemma SameBytes.refl (source : RandomSource) : SameBytes source source := fun _ => rfl

/-- They give the same byte next, and will give the same bytes after it. -/
lemma SameBytes.next {left right : RandomSource} (same : SameBytes left right) :
    left.next.1 = right.next.1 ∧ SameBytes left.next.2 right.next.2 := by
  constructor
  · have first := same 1
    simpa only [take, List.cons.injEq, and_true] using first
  · intro count
    have longer := same (count + 1)
    exact (List.cons.inj longer).2

end RandomSource

/-- Sources may be different as long as they will give the same bytes. -/
def Leeway.sameBytes : Leeway where
  source := RandomSource.SameBytes

lemma Leeway.isKept_sameBytes : Leeway.sameBytes.IsKept where
  stack := CallStack.isKept_eq
  memory := Memory.isKept_eq
  source same := same.next.2

/-! ## Twins -/

namespace Machine

/-- The machine with another source of random bytes. -/
def withRandom (machine : Machine) (random : RandomSource) : Machine := { machine with random }

/-- The machines differ in nothing but their sources of random bytes, which give the same bytes. -/
structure Twins (left right : Machine) : Prop where
  same : right = left.withRandom right.random
  bytes : left.random.SameBytes right.random

variable {left right : Machine}

lemma Twins.processor (twins : Twins left right) : right.processor = left.processor := by
  rw [twins.same]
  rfl

/-- Twins are near each other, with no other leeway than their sources. -/
lemma twins_iff_near : Twins left right ↔ Near .sameBytes left right := by
  constructor
  · rintro ⟨same, bytes⟩
    refine ⟨?_, ?_, ?_, bytes, ?_⟩ <;> rw [same] <;> rfl
  · intro near
    exact ⟨near.eq_of_parts rfl near.stack near.memory rfl near.spritesWrap, near.random⟩

end Machine

/-! ## Sessions -/

namespace Session

/-- The sessions differ in nothing but where their random bytes come from and in their last reports,
and not in these either if both have been told the same. -/
structure Alike (told : Prop) (left right : Session) : Prop where
  rom : right.rom = left.rom
  cyclesPerTick : right.cyclesPerTick = left.cyclesPerTick
  machine : left.machine.Twins right.machine
  debugger : left.debugger.Alike told right.debugger
  cycles : right.cycles = left.cycles
  sinceTick : right.sinceTick = left.sinceTick

variable {left right : Session}

lemma Alike.mono {told' : Prop} (weakens : told' → told) (alike : Alike told left right) :
    Alike told' left right :=
  { alike with debugger := alike.debugger.mono weakens }

lemma alike_iff_near : Alike told left right ↔ Near .sameBytes told left right :=
  ⟨fun alike => { alike with machine := Machine.twins_iff_near.1 alike.machine },
    fun near => { near with machine := Machine.twins_iff_near.2 near.machine }⟩

/-- As they have the same policy and will give the same bytes, nothing is unsettled. -/
lemma settles_sameBytes (machine : Machine) (operations : List Machine.Operation) :
    machine.Throughout (Machine.Settles .sameBytes) operations :=
  have bytes {source source' : RandomSource} (same : source.SameBytes source') :
      source'.next.1 = source.next.1 := same.next.1.symm
  Machine.throughout_of_forall (Machine.settles_of_policy Eq.symm · · bytes) machine operations

/-- Sessions that are alike respond alike to every operation and stay alike. -/
theorem agree_respond (alike : Alike told left right) (operation : Operation) :
    Agree (Alike (told ∨ left.renews operation = true)) (respond operation left)
      (respond operation right) :=
  (near_respond Leeway.isKept_sameBytes Eq.symm (alike_iff_near.1 alike) operation
    (settles_sameBytes _ _)).mono fun _ _ => alike_iff_near.2

/-- Sessions that are alike are so after any operations. -/
theorem alike_operateAll (operations : List Operation) (alike : Alike told left right) :
    Alike (told ∨ left.renewsAny operations = true) (left.operateAll operations)
      (right.operateAll operations) :=
  alike_iff_near.2 (near_operateAll Leeway.isKept_sameBytes Eq.symm operations
    (alike_iff_near.1 alike) (settles_sameBytes _ _))

/-- Sessions that are alike give the same answer to every command. -/
theorem answer_eq (alike : Alike told left right) (command : Command) :
    outcome (perform command left) = outcome (perform command right) :=
  near_answer Leeway.isKept_sameBytes Eq.symm (alike_iff_near.1 alike) command
    (settles_sameBytes _ _)

end Session

end Chip8
