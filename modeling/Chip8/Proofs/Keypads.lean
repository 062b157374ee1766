import Chip8.Keypad
import Mathlib

/-!
# The state of the keys

A keypad is known by which keys are down (`Keypad.eq_of_isDown`). Of keys that are pressed one after
the other neither the order matters nor how often each is pressed (`Keypad.pressKeys_congr`).
-/

namespace Chip8.Keypad

variable {keypad other : Keypad} {keys keys' : List Key} {key : Key}

lemma eq_of_isDown (same : ∀ key, keypad.isDown key = other.isDown key) : keypad = other := by
  obtain ⟨down⟩ := keypad
  obtain ⟨down'⟩ := other
  exact congrArg mk (Vector.ext fun place inside => same ⟨place, inside⟩)

lemma isDown_released (key : Key) : released.isDown key = false := Vector.getElem_replicate key.isLt

/-- A list of the states of all keys, in the order of their codes, sets just these. -/
lemma ofList_toList (keypad : Keypad) : ofList keypad.down.toList = .ok keypad := by
  unfold ofList
  rw [dif_pos keypad.down.length_toList]
  rfl

/-! ## Pressing keys -/

lemma isDown_set (keypad : Keypad) (pressed key : Key) :
    (keypad.set pressed true).isDown key = (key == pressed || keypad.isDown key) := by
  unfold isDown set
  rw [Fin.getElem_fin, Vector.getElem_set]
  by_cases same : key = pressed
  · simp [same]
  · rw [if_neg fun place => same (Fin.ext place.symm), beq_eq_false_iff_ne.2 same, Bool.false_or]
    rfl

/-- Puts keys down one after the other. -/
def pressKeys (keypad : Keypad) (keys : List Key) : Keypad := keys.foldl (·.set · true) keypad

lemma isDown_pressKeys (keypad : Keypad) (keys : List Key) (key : Key) :
    (keypad.pressKeys keys).isDown key = (keys.contains key || keypad.isDown key) := by
  induction keys generalizing keypad with
  | nil => rfl
  | cons pressed rest ih =>
    rw [pressKeys, List.foldl_cons, ← pressKeys, ih, isDown_set, List.contains_cons,
      Bool.or_left_comm, Bool.or_assoc]

/-- The same keys in another order and another number make the same keypad. -/
lemma pressKeys_congr (same : ∀ key, key ∈ keys ↔ key ∈ keys') :
    keypad.pressKeys keys = keypad.pressKeys keys' := by
  refine eq_of_isDown fun key => ?_
  rw [isDown_pressKeys, isDown_pressKeys]
  congr 1
  rw [Bool.eq_iff_iff, List.contains_iff_mem, List.contains_iff_mem, same]

/-! ## The lowest key -/

lemma lowestDown?_eq_some_iff :
    keypad.lowestDown? = some key ↔ IsLeast {key | keypad.isDown key = true} key := by
  rw [lowestDown?, ← Fin.find?_eq_find?_finRange, Fin.find?_eq_some_iff]
  refine and_congr_right fun _ => ⟨fun least other down => ?_, fun least other below => ?_⟩
  · by_contra above
    have up := least other (not_le.1 above)
    exact Bool.false_ne_true (up.symm.trans down)
  · by_contra down
    exact not_le.2 below (least ((Bool.not_eq_false _).mp down))

lemma lowestDown?_eq_none_iff : keypad.lowestDown? = none ↔ ∀ key, keypad.isDown key = false := by
  rw [lowestDown?, ← Fin.find?_eq_find?_finRange, Fin.find?_eq_none_iff]

end Chip8.Keypad
