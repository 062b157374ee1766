import Chip8.Proofs.Raw.Drawing

/-!
# Sprites are combined with the screen by exclusive or

Every set bit of a sprite lands on one pixel or on none, and a pixel may be hit by several bits
(`Sprite.hits`): by one from each of the rows that come back at the top edge, if sprites wrap. A
pixel is flipped as often as it is hit, and so its new state is a matter of parity; it is turned off
if it was on and is hit, or if it is hit twice. That is first shown of the pixels in any list
(`flip_pixel`, `flip_collides`); what is in the list is then counted bit by bit.
-/

namespace Chip8

namespace Sprite

/-! ## Flipping the pixels of a list -/

/-- Whether a pixel is ever turned off when it is flipped so many times. -/
def TurnsOff (lit : Bool) (flips : Nat) : Prop :=
  (1 ≤ flips ∧ lit = true) ∨ 2 ≤ flips

/-- The first flip turns the pixel off if it is on, and the others find it changed. -/
lemma turnsOff_succ (lit : Bool) (flips : Nat) :
    TurnsOff lit (flips + 1) ↔ lit = true ∨ TurnsOff (!lit) flips := by
  unfold TurnsOff
  cases lit <;> simp
  omega

lemma get_flipped {n : Nat} (pixels : Vector Bool n) (first place : Fin n) :
    (pixels.set first (!pixels.get first) first.isLt).get place =
      if first = place then !pixels.get place else pixels.get place := by
  split
  next same =>
    subst same
    exact Vector.getElem_set_self _
  next other => exact Vector.getElem_set_ne _ _ fun equal => other (Fin.ext equal)

/-- Flipping a pixel an odd number of times changes it. -/
lemma flip_pixel (places : List Pixel) (pixels : Vector Bool 2048) (place : Pixel) :
    (flip places pixels).2.get place = (pixels.get place ^^ decide (Odd (places.count place))) := by
  induction places generalizing pixels with
  | nil => simp [flip]
  | cons first rest ih =>
    have flipped : (flip (first :: rest) pixels).2.get place =
        ((pixels.set first (!pixels.get first)).get place ^^ decide (Odd (rest.count place))) := ih _
    rw [flipped, get_flipped]
    by_cases same : first = place
    · subst same
      have changes : decide (Odd (rest.count first + 1)) = !decide (Odd (rest.count first)) := by
        rw [← decide_not]
        exact decide_eq_decide.2 Nat.odd_add_one
      rw [if_pos rfl, List.count_cons_self, changes, Bool.xor_not, Bool.not_xor]
    · rw [if_neg same, List.count_cons_of_ne same]

/-- A drawing collides if it ever turns a pixel off. -/
lemma flip_collides (places : List Pixel) (pixels : Vector Bool 2048) :
    (flip places pixels).1 = true ↔ ∃ place, TurnsOff (pixels.get place) (places.count place) := by
  induction places generalizing pixels with
  | nil => simp [flip, TurnsOff]
  | cons first rest ih =>
    have others {place : Pixel} (other : first ≠ place) :
        TurnsOff (pixels.get place) ((first :: rest).count place) ↔
          TurnsOff ((pixels.set first (!pixels.get first)).get place) (rest.count place) := by
      rw [get_flipped, if_neg other, List.count_cons_of_ne other]
    have itself : TurnsOff (pixels.get first) ((first :: rest).count first) ↔
        pixels.get first = true ∨
          TurnsOff ((pixels.set first (!pixels.get first)).get first) (rest.count first) := by
      rw [get_flipped, if_pos rfl, List.count_cons_self, turnsOff_succ]
    simp only [flip, Bool.or_eq_true, ih]
    constructor
    · rintro (lit | ⟨place, off⟩)
      · exact ⟨first, itself.2 (.inl lit)⟩
      · by_cases same : first = place
        · subst same
          exact ⟨first, itself.2 (.inr off)⟩
        · exact ⟨place, (others same).2 off⟩
    · rintro ⟨place, off⟩
      by_cases same : first = place
      · subst same
        exact (itself.1 off).imp_right fun off => ⟨first, off⟩
      · exact .inr ⟨place, (others same).1 off⟩

/-! ## Counting hits -/

/-- Whether a bit of a sprite row is set, counted from the left. Rows are integers in two's
complement, of which the low eight bits are drawn. -/
def isSet (row : Int) (bit : Nat) : Bool := row.testBit (7 - bit)

/-- Whether a bit of a sprite with its origin at two coordinates lands on a pixel of the screen. -/
def LandsOn (wrap : Bool) (x y : Int) (bit row : Nat) (column : Fin 64) (line : Fin 32) : Prop :=
  if wrap then (column : Int) = (x % 64 + bit) % 64 ∧ (line : Int) = (y % 32 + row) % 32
  else (column : Int) = x % 64 + bit ∧ (line : Int) = y % 32 + row

instance (wrap : Bool) (x y : Int) (bit row : Nat) (column : Fin 64) (line : Fin 32) :
    Decidable (LandsOn wrap x y bit row column line) :=
  inferInstanceAs (Decidable (ite _ _ _))

/-- The number of set bits of a sprite that land on a pixel. -/
def hits (wrap : Bool) (x y : Int) (rows : List Int) (column : Fin 64) (line : Fin 32) : Nat :=
  Finset.card {place : Fin rows.length × Fin 8 |
    isSet rows[place.1] place.2 = true ∧ LandsOn wrap x y place.2 place.1 column line}

lemma isSet_iff (row : Int) (bit : Nat) : isSet row bit = true ↔ (row >>> (7 - bit)) % 2 = 1 := by
  unfold isSet
  generalize 7 - bit = place
  cases row with
  | ofNat n =>
    show n.testBit place = true ↔ ((n >>> place : Nat) : Int) % 2 = 1
    rw [Nat.testBit_eq_decide_div_mod_eq, decide_eq_true_iff, Nat.shiftRight_eq_div_pow]
    omega
  | negSucc n =>
    -- The bits of a negative number are those of its complement, turned over.
    show (!n.testBit place) = true ↔ Int.negSucc (n >>> place) % 2 = 1
    rw [Nat.testBit_eq_decide_div_mod_eq, Nat.shiftRight_eq_div_pow, ← decide_not,
      decide_eq_true_iff]
    omega

lemma landing?_eq_some_iff {wrap : Bool} {x y : Int} {bit row : Nat} {column : Fin 64}
    {line : Fin 32} :
    landing? wrap ((x % 64).toNat + bit) ((y % 32).toNat + row) = some (Pixel.at column line) ↔
      LandsOn wrap x y bit row column line := by
  have same (column' : Fin 64) (line' : Fin 32) :
      Pixel.at column' line' = Pixel.at column line ↔ column'.val = column ∧ line'.val = line := by
    constructor
    · intro equal
      obtain ⟨rfl, rfl⟩ := Raw.pixel_at_inj equal
      exact ⟨rfl, rfl⟩
    · rintro ⟨left, above⟩
      rw [Fin.ext left, Fin.ext above]
  unfold landing? LandsOn
  cases wrap with
  | true =>
    rw [if_pos rfl, if_pos rfl, Option.some_inj, same]
    dsimp only
    omega
  | false =>
    rw [if_neg Bool.false_ne_true, if_neg Bool.false_ne_true]
    split
    next inside =>
      rw [Option.some_inj, same]
      dsimp only
      omega
    next outside =>
      simp only [reduceCtorEq, false_iff]
      omega

/-- The members of a finite type of numbers that satisfy something, counted in a list. -/
lemma countP_finRange {n : Nat} (p : Fin n → Bool) :
    (List.finRange n).countP p = Finset.card {i : Fin n | p i = true} := by
  rw [List.countP_eq_length_filter,
    ← List.toFinset_card_of_nodup ((List.nodup_finRange n).filter _)]
  congr 1
  ext i
  simp

section
variable (wrap : Bool) (x y : Int) (p : Pixel → Bool)

/-- The set bits of one row that land on certain pixels. -/
lemma countP_bits (bits : Int) (row : Nat) :
    ((setColumns bits).filterMap fun bit =>
        landing? wrap ((x % 64).toNat + bit) ((y % 32).toNat + row)).countP p =
      Finset.card {bit : Fin 8 | isSet bits bit = true ∧
        (landing? wrap ((x % 64).toNat + bit) ((y % 32).toNat + row)).any p = true} := by
  have any (place : Option Pixel) : (place.map p).getD false = place.any p := by cases place <;> rfl
  rw [List.countP_filterMap, setColumns, List.countP_filter, ← List.map_coe_finRange_eq_range,
    List.countP_map, countP_finRange]
  congr 1
  ext bit
  simp only [Function.comp, any, Bool.and_eq_true, decide_eq_true_iff, ← isSet_iff,
    Finset.mem_filter, Finset.mem_univ, true_and]
  exact and_comm

/-- The set bits of a sprite that land on certain pixels. -/
lemma countP_landings (rows : List Int) :
    (landings wrap x y rows).countP p =
      Finset.card {place : Fin rows.length × Fin 8 | isSet rows[place.1] place.2 = true ∧
        (landing? wrap ((x % 64).toNat + place.2) ((y % 32).toNat + place.1)).any p = true} := by
  have numbered : rows.zipIdx = (List.finRange rows.length).map fun row => (rows[row], row.val) := by
    apply List.ext_getElem <;> simp
  rw [landings, List.countP_flatMap, numbered, List.map_map, ← Fin.sum_univ_def,
    Finset.card_filter, Fintype.sum_prod_type]
  apply Finset.sum_congr rfl
  intro row _
  rw [← Finset.card_filter]
  exact countP_bits wrap x y p rows[row] row

end

lemma count_landings (wrap : Bool) (x y : Int) (rows : List Int) (column : Fin 64)
    (line : Fin 32) :
    (landings wrap x y rows).count (Pixel.at column line) = hits wrap x y rows column line := by
  rw [List.count, countP_landings, hits]
  congr 1
  ext place
  simp only [Option.any_eq_true, beq_iff_eq, exists_eq_right, landing?_eq_some_iff]

end Sprite

namespace Screen

/-- Every pixel has a column and a row. -/
lemma exists_pixel_iff {property : Pixel → Prop} :
    (∃ place, property place) ↔ ∃ column row, property (Pixel.at column row) := by
  constructor
  · rintro ⟨place, holds⟩
    have here : Pixel.at ⟨place % 64, by omega⟩ ⟨place / 64, by omega⟩ = place := by
      apply Fin.ext
      simp only [Pixel.at]
      omega
    exact ⟨_, _, here.symm ▸ holds⟩
  · rintro ⟨column, row, holds⟩
    exact ⟨_, holds⟩

/-- Sprites are combined with the screen by exclusive or. Whatever is on the screen, wherever the
sprite is drawn and however many rows it has: after the drawing a pixel is on if it was on before
and is hit by an even number of set bits, or if it was off and is hit by an odd number of them. The
drawing collides if some pixel was on and is hit, or is hit at least twice. The loops over rows and
bits that change the cells one by one, and leave off at an edge that does not wrap, come to the
same. -/
theorem draw_composites (screen : Screen) (x y : Int) (rows : List Int) (wrap : Bool) :
    let (collision, drawn) := screen.draw x y rows wrap
    let hits := Sprite.hits wrap x y rows
    (∀ column row,
      drawn.isLit column row = (screen.isLit column row ^^ decide (Odd (hits column row)))) ∧
    (collision = true ↔ ∃ column row,
      (1 ≤ hits column row ∧ screen.isLit column row = true) ∨ 2 ≤ hits column row) ∧
    ∀ machine : Machine,
      Raw.draw x y rows wrap ({ machine with screen } : Machine).toRaw =
        .ok collision ({ machine with screen := drawn } : Machine).toRaw := by
  refine ⟨fun column row => ?_, ?_, ?_⟩
  · rw [← Sprite.count_landings]
    exact Sprite.flip_pixel _ _ _
  · refine (Sprite.flip_collides _ _).trans (exists_pixel_iff.trans ?_)
    simp only [Sprite.count_landings]
    rfl
  · intro machine
    exact Raw.run_draw x y rows wrap { machine with screen }

-- The last of 33 rows comes back to the top of the screen, where the first one was drawn.
example : Sprite.hits true 60 0 (List.replicate 33 (-1)) 0 0 = 2 := by decide +kernel

end Screen

end Chip8
