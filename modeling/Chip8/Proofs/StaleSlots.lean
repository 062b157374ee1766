import Chip8.Proofs.NearDialogues

/-!
# Slots that are not in use

Taking a return address off the stack leaves its slot as it was, and later calls come to write over it.
What stands in such a slot is never seen. Stacks that agree in the slots in use have the same live
addresses (`sameInUse_iff`), and the live addresses are all that matters: pushing and popping work on them
as on a list that holds sixteen at most (`live_of_push?`, `live_of_pop?`). So sessions that agree but for
slots not in use tell a host the same in every dialogue, and still agree after it
(`stale_slots_invisible`).
-/

namespace Chip8

/-! ## Stacks -/

namespace CallStack

/-- The stacks have the same depth, and the same addresses in the slots in use. -/
structure SameInUse (left right : CallStack) : Prop where
  depth : right.depth = left.depth
  slots : ∀ place, (inside : place < 16) → place < left.depth →
    right.slots[place] = left.slots[place]

/-- What is in use is what is live. -/
lemma sameInUse_iff {left right : CallStack} : SameInUse left right ↔ right.live = left.live := by
  constructor
  · intro same
    apply List.ext_getElem
    · rw [length_live, length_live, same.depth]
    · intro place below below'
      rw [length_live] at below'
      have inside : place < 16 := Nat.lt_of_lt_of_le below' left.depth_le
      simpa [live] using same.slots place inside below'
  · intro same
    have depth : right.depth = left.depth := by rw [← length_live, same, length_live]
    refine ⟨depth, fun place inside used => ?_⟩
    have entry := congrArg (·[place]?) same
    simpa [live, used, depth, inside] using entry

/-- Pushing appends to a list of sixteen addresses at most. -/
lemma live_of_push? (stack : CallStack) (address : Nat) :
    (stack.push? address).map live =
      if stack.live.length < 16 then some (stack.live ++ [address]) else none := by
  rw [length_live]
  by_cases free : stack.depth < 16
  · have pushed : ∃ after, stack.push? address = some after := ⟨_, dif_pos free⟩
    obtain ⟨after, pushed⟩ := pushed
    rw [if_pos free, pushed, Option.map_some, live_push? pushed]
  · rw [if_neg free, push?, dif_neg free]
    rfl

/-- Popping takes the last address of the list, if there is one. -/
lemma live_of_pop? (stack : CallStack) :
    stack.pop?.map (fun (address, rest) => (address, rest.live)) =
      stack.live.getLast?.map (·, stack.live.dropLast) := by
  cases popped : stack.pop? with
  | none =>
    have empty : stack.live = [] := by
      unfold pop? at popped
      split at popped
      · cases popped
      · rw [← List.length_eq_zero_iff, length_live]
        omega
    rw [empty]
    rfl
  | some top =>
    obtain ⟨address, rest⟩ := top
    rw [live_pop? popped]
    simp

/-- Pushing and popping go by what is live, and so does what they leave. -/
lemma isKept_sameInUse : CallStack.IsKept SameInUse where
  refl stack := ⟨rfl, fun _ _ _ => rfl⟩
  push {left right} same address := by
    have pushed : (right.push? address).map live = (left.push? address).map live := by
      rw [live_of_push?, live_of_push?, sameInUse_iff.1 same]
    generalize left.push? address = first at pushed
    generalize right.push? address = second at pushed
    cases first <;> cases second
    · exact .none
    · cases pushed
    · cases pushed
    · exact .some (sameInUse_iff.2 (Option.some.inj pushed))
  pop {left right} same := by
    have popped := live_of_pop? right
    rw [sameInUse_iff.1 same, ← live_of_pop?] at popped
    generalize left.pop? = first at popped
    generalize right.pop? = second at popped
    cases first <;> cases second
    · exact .none
    · cases popped
    · cases popped
    · obtain ⟨address, rest⟩ := Prod.mk.inj (Option.some.inj popped)
      exact .some ⟨address, sameInUse_iff.2 rest⟩

end CallStack

/-- Slots that are not in use may hold anything. -/
def Leeway.staleSlots : Leeway where
  stack := CallStack.SameInUse

lemma Leeway.isKept_staleSlots : Leeway.staleSlots.IsKept where
  stack := CallStack.isKept_sameInUse
  memory := Memory.isKept_eq
  source := RandomSource.isKept_eq

/-! ## Sessions -/

namespace Session

/-- The session with another stack. -/
def withStack (session : Session) (stack : CallStack) : Session :=
  session.mapMachine (·.mapProcessor ({ · with stack }))

/-- The sessions are the same but for slots of their stacks that are not in use. -/
structure SameButStale (left right : Session) : Prop where
  same : right = left.withStack right.machine.processor.stack
  stack : left.machine.processor.stack.SameInUse right.machine.processor.stack

lemma sameButStale_iff_near {left right : Session} :
    SameButStale left right ↔ Near .staleSlots True left right := by
  constructor
  · rintro ⟨same, stack⟩
    generalize right.machine.processor.stack = other at same stack
    subst same
    exact ⟨rfl, rfl, ⟨rfl, stack, rfl, rfl, rfl⟩, ⟨rfl, rfl, rfl, fun _ => rfl⟩, rfl, rfl⟩
  · intro near
    refine ⟨near.eq_mapMachine ?_, near.machine.stack⟩
    exact near.machine.eq_of_parts rfl rfl near.machine.memory near.machine.random
      near.machine.spritesWrap

/-- Stale slots are invisible. Whatever a host asks of two sessions that are the same but for slots of the
stack not in use, it is told the same by both, and finds them the same but for such slots afterwards. Thus
the slots and the depth behave as a list of sixteen return addresses at most, to which a call appends and
whose last one a return takes off. -/
theorem stale_slots_invisible :
    (∀ {left right : Session}, SameButStale left right → ∀ requests : List Request,
      dialogue right requests = dialogue left requests ∧
        SameButStale (left.serveAll requests) (right.serveAll requests)) ∧
    ∀ stack : CallStack, stack.live.length ≤ 16 ∧
      (∀ address, (stack.push? address).map CallStack.live =
        if stack.live.length < 16 then some (stack.live ++ [address]) else none) ∧
      stack.pop?.map (fun (address, rest) => (address, rest.live)) =
        stack.live.getLast?.map (·, stack.live.dropLast) := by
  constructor
  · intro left right same requests
    -- The policies are equal, so whatever is drawn on the way is settled.
    have policies {wrap wrap' : Bool} (allowed : Leeway.staleSlots.policy wrap wrap') :
        wrap' = wrap := allowed.symm
    have settles := Machine.throughout_of_forall (Machine.settles_of_policy policies) left.machine
      (chronicle left (requests.flatMap Request.operations))
    obtain ⟨told, near⟩ := near_dialogue Leeway.isKept_staleSlots Eq.symm CallStack.sameInUse_iff.1
      (sameButStale_iff_near.1 same) requests settles
    exact ⟨told, sameButStale_iff_near.2 near⟩
  · intro stack
    have bound := stack.depth_le
    rw [← stack.length_live] at bound
    exact ⟨bound, stack.live_of_push?, stack.live_of_pop?⟩

/-- A program that calls a subroutine, which returns, and then returns itself. -/
def callAndReturnRom : Rom where
  bytes := [0x22, 0x04, 0x00, 0xEE, 0x00, 0xEE]
  fits := by decide

/-- A session that is about to call the subroutine. -/
def calling : Session := powerOn callAndReturnRom 1 Nat.one_pos (.ofStream fun count => count) false

/-- The stack of that session with an address left over in every slot. -/
def leftovers : CallStack :=
  { CallStack.empty with slots := Vector.replicate 16 0xABC }

/-- The call writes over one of the addresses left over, and the others stay. Nobody sees them: the
return takes off what the call has put there, and the next return finds the stack empty. -/
theorem stale_slots_invisible_to_call :
    let right := calling.withStack leftovers
    let requests : List Request :=
      [.operate (.cycle none), .look .stack, .operate (.cycle none), .look .stack, .give (.execute 0x00EE)]
    dialogue calling requests =
      [.ok (.reply (.truth true)), .ok (.finding (.addresses [0x202])), .ok (.reply (.truth true)),
        .ok (.finding (.addresses [])),
        .error (.fault { cause := .stackUnderflow, pc := some 0x202, opcode := some 0x00EE })] ∧
    dialogue right requests = dialogue calling requests ∧
    (right.serveAll requests).machine.processor.stack.slots[0] = 0x202 ∧
      (right.serveAll requests).machine.processor.stack.slots[1] = 0xABC := by
  intro right requests
  have same : SameButStale calling right := ⟨rfl, rfl, fun place inside used => by cases used⟩
  obtain ⟨told, -⟩ := stale_slots_invisible.1 same requests
  exact ⟨by decide +kernel, told, by decide +kernel, by decide +kernel⟩

end Session

end Chip8
