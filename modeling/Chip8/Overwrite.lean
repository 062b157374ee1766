/-!
# Overwriting part of a vector

Blocks of memory and runs of registers are written entry by entry, at consecutive places. What is
read afterwards is the new entry inside the block and the old one outside.
-/

namespace Chip8

variable {α : Type} {size : Nat}

/-- Puts entries at consecutive places; what would fall past the end is dropped. -/
def overwrite (data : Vector α size) (start : Nat) : List α → Vector α size
  | [] => data
  | entry :: rest => overwrite (data.setIfInBounds start entry) (start + 1) rest

theorem getElem_overwrite_of_lt (data : Vector α size) (start place : Nat) (entries : List α)
    (h : place < size) (before : place < start) :
    (overwrite data start entries)[place] = data[place] := by
  induction entries generalizing data start with
  | nil => rfl
  | cons entry rest ih =>
    rw [overwrite, ih _ _ (by omega), Vector.getElem_setIfInBounds_ne h (by omega)]

/-- Inside the block stand the new entries, outside the old ones. -/
theorem getElem_overwrite (data : Vector α size) (start place : Nat) (entries : List α)
    (h : place < size) :
    (overwrite data start entries)[place] =
      if start ≤ place then entries[place - start]?.getD data[place] else data[place] := by
  induction entries generalizing data start with
  | nil => simp [overwrite]
  | cons entry rest ih =>
    rw [overwrite]
    by_cases first : place = start
    · subst first
      rw [getElem_overwrite_of_lt _ _ _ _ h (by omega)]
      simp
    · rw [ih, Vector.getElem_setIfInBounds_ne h (by omega)]
      by_cases behind : start + 1 ≤ place
      · rw [if_pos behind, if_pos (by omega)]
        rw [show place - start = place - (start + 1) + 1 by omega, List.getElem?_cons_succ]
      · rw [if_neg (by omega), if_neg (by omega)]

/-- Outside the block nothing changes. -/
theorem getElem_overwrite_of_outside (data : Vector α size) (start place : Nat) (entries : List α)
    (h : place < size) (outside : place < start ∨ start + entries.length ≤ place) :
    (overwrite data start entries)[place] = data[place] := by
  rw [getElem_overwrite]
  split
  · rw [List.getElem?_eq_none (by omega)]
    rfl
  · rfl

end Chip8
