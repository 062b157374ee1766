/-!
# Places among sixteen

Keys and registers are numbered from zero to fifteen. Where a host gives an index, it may also
count back from the last one, which has the index -1.
-/

namespace Chip8.Place

/-- The one of sixteen with a number. -/
def ofNumber? (number : Int) : Option (Fin 16) :=
  if h : 0 ≤ number ∧ number < 16 then some ⟨number.toNat, by omega⟩ else none

/-- The one of sixteen with an index, negative indexes counting back from the last. -/
def ofIndex? (index : Int) : Option (Fin 16) :=
  ofNumber? (if index < 0 then index + 16 else index)

end Chip8.Place
