/-!
# The call stack

Sixteen slots for return addresses, of which the first `depth` are in use. Taking an address off
leaves its slot as it was; `live` is the list of addresses in use, the oldest first, and is all
that pushing and popping depend on.
-/

namespace Chip8

/-- The slots, and how many of them are in use. -/
structure CallStack where
  slots : Vector Nat 16
  depth : Nat
  depth_le : depth ≤ 16
deriving DecidableEq

namespace CallStack

/-- The stack at power-on. -/
def empty : CallStack where
  slots := Vector.replicate 16 0
  depth := 0
  depth_le := by decide

/-- The addresses in use, the oldest first. -/
def live (stack : CallStack) : List Nat :=
  stack.slots.toList.take stack.depth

/-- Adds an address, if a slot is free. -/
def push? (stack : CallStack) (address : Nat) : Option CallStack :=
  if h : stack.depth < 16 then
    some { slots := stack.slots.set stack.depth address, depth := stack.depth + 1, depth_le := h }
  else none

/-- Takes the newest address off, if there is one. -/
def pop? (stack : CallStack) : Option (Nat × CallStack) :=
  if h : 0 < stack.depth then
    have inside : stack.depth - 1 < 16 := by have := stack.depth_le; omega
    some (stack.slots[stack.depth - 1],
      { stack with depth := stack.depth - 1, depth_le := by omega })
  else none

/-! ## The addresses in use -/

theorem length_live (stack : CallStack) : stack.live.length = stack.depth := by
  simp [live, stack.depth_le]

/-- Pushing puts the address behind those in use. -/
theorem live_push? {stack pushed : CallStack} {address : Nat}
    (h : stack.push? address = some pushed) : pushed.live = stack.live ++ [address] := by
  unfold push? at h
  split at h
  · next free =>
    obtain rfl := Option.some.inj h
    simp only [live, Vector.toList_set]
    rw [List.take_add_one, List.take_set_of_le (Nat.le_refl _)]
    simp [free]
  · contradiction

/-- Popping gives the newest address and leaves the others. -/
theorem live_pop? {stack popped : CallStack} {address : Nat}
    (h : stack.pop? = some (address, popped)) : stack.live = popped.live ++ [address] := by
  unfold pop? at h
  split at h
  · next used =>
    obtain ⟨rfl, rfl⟩ := Prod.mk.inj (Option.some.inj h)
    obtain ⟨slots, depth, depth_le⟩ := stack
    replace used : 0 < depth := used
    obtain ⟨rest, rfl⟩ : ∃ rest, depth = rest + 1 := ⟨depth - 1, by omega⟩
    simp only [live, Nat.add_sub_cancel]
    rw [List.take_add_one, List.getElem?_eq_getElem (by simp; omega)]
    simp
  · contradiction

end CallStack

end Chip8
