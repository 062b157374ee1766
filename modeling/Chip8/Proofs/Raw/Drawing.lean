import Chip8.Proofs.Raw.View

/-!
# Drawing on the raw screen

The raw machine draws a sprite in two nested loops that leave off at the edges, the machine flips
the pixels of a list. `Flips` says that a piece of the loops flips the pixels of a list; appending
lists, it carries over from a cell to a row of the sprite and to the whole sprite. Where a loop
leaves off, nothing that would follow lands on the screen.
-/

namespace Chip8

/-- The machine with other pixels on its screen. -/
def Machine.withPixels (machine : Machine) (pixels : Vector Bool 2048) : Machine :=
  { machine with screen := { machine.screen with pixels } }

namespace Raw

/-! ## Cells -/

/-- Setting an entry of a mapped list of all numbers below a bound. -/
lemma set_map_finRange {α : Type} {n : Nat} {f g : Fin n → α} {i : Fin n}
    (others : ∀ j, j ≠ i → g j = f j) :
    ((List.finRange n).map f).set i (g i) = (List.finRange n).map g := by
  apply List.ext_getElem
  · simp only [List.length_set, List.length_map]
  · intro place low high
    rw [List.getElem_set]
    simp only [List.getElem_map, List.getElem_finRange]
    split
    · next same =>
      congr 1
      exact Fin.ext same
    · next different =>
      refine (others _ fun same => different ?_).symm
      rw [← same]
      rfl

lemma pixel_at_inj {column column' : Fin 64} {row row' : Fin 32}
    (same : Pixel.at column row = Pixel.at column' row') : column = column' ∧ row = row' := by
  have places := congrArg Fin.val same
  simp only [Pixel.at] at places
  constructor <;> apply Fin.ext <;> omega

/-- The row of the screen as numbers. -/
def line (screen : Screen) (row : Fin 32) : List Int :=
  (List.finRange 64).map fun column => cell (screen.isLit column row)

lemma length_line (screen : Screen) (row : Fin 32) : (line screen row).length = 64 := by
  rw [line, List.length_map, List.length_finRange]

lemma item_cells {σ : Type} (screen : Screen) (row : Fin 32) :
    (item screen.cells row.val : EStateM Trouble σ (List Int)) = pure (line screen row) := by
  have inside : row.val < screen.cells.length := by
    rw [length_cells]
    exact row.isLt
  rw [item_natCast inside]
  simp only [Screen.cells, List.getElem_map, List.getElem_finRange]
  rfl

lemma item_line {σ : Type} (screen : Screen) (column : Fin 64) (row : Fin 32) :
    (item (line screen row) column.val : EStateM Trouble σ Int) =
      pure (cell (screen.isLit column row)) := by
  have inside : column.val < (line screen row).length := by
    rw [length_line]
    exact column.isLt
  rw [item_natCast inside]
  simp only [line, List.getElem_map, List.getElem_finRange]
  rfl

/-- Setting one pixel sets one number of one row. -/
lemma cells_set (screen : Screen) (column : Fin 64) (row : Fin 32) (lit : Bool)
    (inside : (Pixel.at column row).val < 2048) :
    screen.cells.set row ((line screen row).set column (cell lit)) =
      Screen.cells { screen with pixels := screen.pixels.set (Pixel.at column row) lit inside } := by
  let after : Screen :=
    { screen with pixels := screen.pixels.set (Pixel.at column row) lit inside }
  -- The pixel itself is new, and all others are as before, in its own row and elsewhere.
  have now : after.isLit column row = lit := Vector.getElem_set_self _
  have kept {column' : Fin 64} {row' : Fin 32} (other : column' ≠ column ∨ row' ≠ row) :
      after.isLit column' row' = screen.isLit column' row' := by
    have elsewhere : (Pixel.at column row).val ≠ (Pixel.at column' row').val := by
      intro same
      obtain ⟨rfl, rfl⟩ := pixel_at_inj (Fin.ext same)
      rcases other with other | other <;> exact other rfl
    exact Vector.getElem_set_ne inside (Pixel.at column' row').isLt elsewhere
  have inner : (line screen row).set column (cell lit) = line after row := by
    rw [← now]
    exact set_map_finRange (f := fun column' => cell (screen.isLit column' row))
      (g := fun column' => cell (after.isLit column' row))
      fun column' other => by rw [kept (.inl other)]
  rw [inner]
  exact set_map_finRange (f := line screen) (g := line after)
    fun row' other => by simp only [line, kept (.inr other)]

/-! ## Flipping -/

/-- A piece of the loops, given whether there was a collision, flips the pixels of a list and says
whether there is one by now. -/
def Flips (raw : Bool → Program Bool) (places : List Pixel) : Prop :=
  ∀ collision (machine : Chip8.Machine),
    raw collision machine.toRaw =
      .ok (collision || (Sprite.flip places machine.screen.pixels).1)
        (machine.withPixels (Sprite.flip places machine.screen.pixels).2).toRaw

lemma flip_append (places others : List Pixel) (pixels : Vector Bool 2048) :
    Sprite.flip (places ++ others) pixels =
      ((Sprite.flip places pixels).1 || (Sprite.flip others (Sprite.flip places pixels).2).1,
        (Sprite.flip others (Sprite.flip places pixels).2).2) := by
  induction places generalizing pixels with
  | nil => simp [Sprite.flip]
  | cons place rest ih => simp only [List.cons_append, Sprite.flip, ih, Bool.or_assoc]

lemma flips_nil : Flips pure [] := by
  intro collision machine
  simp only [Sprite.flip, Bool.or_false]
  rfl

lemma Flips.append {raw raw' : Bool → Program Bool} {places others : List Pixel}
    (first : Flips raw places) (rest : Flips raw' others) :
    Flips (fun collision => raw collision >>= raw') (places ++ others) := by
  intro collision machine
  dsimp only
  rw [run_bind, first collision machine]
  dsimp only
  rw [rest, flip_append, Bool.or_assoc]
  rfl

lemma flips_flipCell {x y : Int} {column : Fin 64} {row : Fin 32} (atX : x = column.val)
    (atY : y = row.val) : Flips (flipCell x y) [Pixel.at column row] := by
  subst atX atY
  intro collision machine
  have flipped (lit : Bool) : Int.xor (cell lit) 1 = cell (!lit) := by cases lit <;> rfl
  have byte (lit : Bool) : 0 ≤ cell lit ∧ cell lit < 256 := by cases lit <;> decide
  have truth (lit : Bool) : (cell lit != 0) = lit := by cases lit <;> rfl
  have place : column.val < (line machine.screen row).length := by
    rw [length_line]
    exact column.isLt
  have below : row.val < machine.screen.cells.length := by
    rw [length_cells]
    exact row.isLt
  -- Step by step: the row and the cell are found, the cell is flipped and put back, then the row.
  unfold flipCell
  rw [run_bind, run_get]
  dsimp only
  rw [run_bind, Machine.toRaw_pixels, item_cells, run_pure]
  dsimp only
  rw [run_bind, item_line, run_pure]
  dsimp only
  rw [run_bind, flipped, setByte, if_pos (byte _), setItem_natCast place, run_pure]
  dsimp only
  rw [run_bind, setItem_natCast below, run_pure,
    cells_set _ _ _ _ (Pixel.at column row).isLt]
  simp only [truth, Sprite.flip, Bool.or_false]
  rfl

/-! ## The loops -/

lemma landing?_wrap (column row : Nat) :
    Sprite.landing? true column row =
      some (Pixel.at ⟨column % 64, Nat.mod_lt _ (by decide)⟩ ⟨row % 32, Nat.mod_lt _ (by decide)⟩) :=
  rfl

lemma landing?_inside (wrap : Bool) {column row : Nat} (left : column < 64) (above : row < 32) :
    Sprite.landing? wrap column row = some (Pixel.at ⟨column, left⟩ ⟨row, above⟩) := by
  cases wrap with
  | true => simp only [landing?_wrap, Nat.mod_eq_of_lt left, Nat.mod_eq_of_lt above]
  | false => exact dif_pos ⟨left, above⟩

lemma landing?_outside {column row : Nat} (outside : ¬(column < 64 ∧ row < 32)) :
    Sprite.landing? false column row = none := dif_neg outside

/-- The pixels that some bits of a sprite row land on. -/
def bitLandings (wrap : Bool) (x row : Nat) (sprite : Int) (bits : List Nat) : List Pixel :=
  (bits.filter fun bit => (sprite >>> (7 - bit : Nat)) % 2 = 1).filterMap fun bit =>
    Sprite.landing? wrap (x + bit) row

lemma bitLandings_cons_of_clear {sprite : Int} {bit : Nat} (wrap : Bool) (x row : Nat)
    (bits : List Nat) (clear : (sprite >>> (7 - bit : Nat)) % 2 = 0) :
    bitLandings wrap x row sprite (bit :: bits) = bitLandings wrap x row sprite bits := by
  unfold bitLandings
  rw [List.filter_cons_of_neg (by simp [clear])]

lemma bitLandings_cons_of_set {sprite : Int} {bit x row : Nat} {wrap : Bool} {place : Pixel}
    (bits : List Nat) (isSet : ¬(sprite >>> (7 - bit : Nat)) % 2 = 0)
    (lands : Sprite.landing? wrap (x + bit) row = some place) :
    bitLandings wrap x row sprite (bit :: bits) =
      [place] ++ bitLandings wrap x row sprite bits := by
  have one : (sprite >>> (7 - bit : Nat)) % 2 = 1 := by omega
  unfold bitLandings
  rw [List.filter_cons_of_pos (by simp [one])]
  simp only [List.filterMap_cons, lands, List.cons_append, List.nil_append]

/-- Nothing lands on the screen from beyond an edge that does not wrap. -/
lemma bitLandings_outside {x row : Nat} {sprite : Int} {bits : List Nat}
    (outside : ∀ bit ∈ bits, ¬(x + bit < 64 ∧ row < 32)) :
    bitLandings false x row sprite bits = [] := by
  unfold bitLandings
  rw [List.filterMap_eq_nil_iff]
  intro bit mem
  exact landing?_outside (outside bit (List.mem_of_mem_filter mem))

lemma flips_drawRow (wrap : Bool) (x : Nat) {row : Nat} (above : row < 32) (sprite : Int)
    {bits : List Nat} (increasing : bits.Pairwise (· < ·)) :
    Flips (drawRow wrap x row sprite bits) (bitLandings wrap x row sprite bits) := by
  -- On the bits of the row. They come in increasing order, so that once one lies beyond the edge all
  -- the others do, and the loop may leave off.
  induction bits with
  | nil => exact flips_nil
  | cons bit bits ih =>
    obtain ⟨later, increasing⟩ := List.pairwise_cons.1 increasing
    have rest := ih increasing
    intro collision machine
    unfold drawRow
    by_cases clear : (sprite >>> (7 - bit : Nat)) % 2 = 0
    · rw [if_pos clear, bitLandings_cons_of_clear _ _ _ _ clear]
      exact rest collision machine
    · rw [if_neg clear]
      by_cases left : x + bit < 64
      · have flipped : Flips (flipCell (x + bit) row) [Pixel.at ⟨x + bit, left⟩ ⟨row, above⟩] :=
          flips_flipCell (by push_cast; rfl) rfl
        rw [if_pos (by omega),
          bitLandings_cons_of_set bits clear (landing?_inside wrap left above)]
        exact flipped.append rest collision machine
      · rw [if_neg (by omega)]
        cases wrap with
        | true =>
          have flipped : Flips (flipCell ((x + bit) % 64) row)
              [Pixel.at ⟨(x + bit) % 64, Nat.mod_lt _ (by decide)⟩
                ⟨row % 32, Nat.mod_lt _ (by decide)⟩] :=
            flips_flipCell (by push_cast; rfl) (by dsimp only; omega)
          rw [if_pos rfl, bitLandings_cons_of_set bits clear (landing?_wrap _ _)]
          exact flipped.append rest collision machine
        | false =>
          have outside : ∀ other ∈ bit :: bits, ¬(x + other < 64 ∧ row < 32) := by
            intro other mem
            rcases List.mem_cons.1 mem with rfl | mem
            · omega
            · have := later other mem
              omega
          rw [if_neg Bool.false_ne_true, bitLandings_outside outside]
          exact flips_nil collision machine

/-- The pixels that sprite rows land on, which are counted from a number on. -/
def rowLandings (wrap : Bool) (x y : Nat) (sprites : List Int) (count : Nat) : List Pixel :=
  (sprites.zipIdx count).flatMap fun (sprite, row) =>
    bitLandings wrap x (y + row) sprite (List.range 8)

lemma rowLandings_cons (wrap : Bool) (x y : Nat) (sprite : Int) (sprites : List Int)
    (count : Nat) :
    rowLandings wrap x y (sprite :: sprites) count =
      bitLandings wrap x (y + count) sprite (List.range 8) ++
        rowLandings wrap x y sprites (count + 1) := rfl

lemma bitLandings_mod (x row : Nat) (sprite : Int) (bits : List Nat) :
    bitLandings true x (row % 32) sprite bits = bitLandings true x row sprite bits := by
  simp only [bitLandings, landing?_wrap, Nat.mod_mod]

lemma rowLandings_outside {x y : Nat} {sprites : List Int} {count : Nat}
    (below : 32 ≤ y + count) : rowLandings false x y sprites count = [] := by
  unfold rowLandings
  rw [List.flatMap_eq_nil_iff]
  rintro ⟨sprite, row⟩ mem
  have := List.le_snd_of_mem_zipIdx mem
  exact bitLandings_outside fun _ _ => by dsimp only at this; omega

lemma flips_drawRows (wrap : Bool) (x y : Nat) (sprites : List Int) (count : Nat) :
    Flips (drawRows wrap x (y + count : Nat) sprites) (rowLandings wrap x y sprites count) := by
  -- On the rows of the sprite. The raw machine counts the row on the screen, the machine that of the
  -- sprite, and `count` goes along with both.
  induction sprites generalizing count with
  | nil => exact flips_nil
  | cons sprite sprites ih =>
    have next : ((y + count : Nat) : Int) + 1 = (y + (count + 1) : Nat) := by omega
    intro collision machine
    unfold drawRows
    rw [rowLandings_cons, next]
    by_cases above : y + count < 32
    · have first := flips_drawRow wrap x above sprite
        (List.pairwise_lt_range (n := 8))
      rw [if_pos (by omega)]
      exact first.append (ih (count + 1)) collision machine
    · rw [if_neg (by omega)]
      cases wrap with
      | true =>
        have first := flips_drawRow true x (Nat.mod_lt (y + count) (by decide)) sprite
          (List.pairwise_lt_range (n := 8))
        rw [bitLandings_mod] at first
        rw [if_pos rfl]
        exact first.append (ih (count + 1)) collision machine
      | false =>
        -- Below the bottom edge nothing lands any more.
        rw [if_neg Bool.false_ne_true, bitLandings_outside fun _ _ => by omega,
          rowLandings_outside (by omega)]
        exact flips_nil collision machine

/-- The raw machine draws sprites as the screen does. -/
theorem run_draw (x y : Int) (sprites : List Int) (wrap : Bool) (machine : Chip8.Machine) :
    draw x y sprites wrap machine.toRaw =
      .ok (machine.screen.draw x y sprites wrap).1
        ({ machine with screen := (machine.screen.draw x y sprites wrap).2 } : Chip8.Machine).toRaw := by
  -- The origin has been reduced, so it is a natural number on both sides.
  have drawn := flips_drawRows wrap (x % 64).toNat (y % 32).toNat sprites 0 false machine
  have atX : ((x % 64).toNat : Int) = x % 64 := by omega
  have atY : (((y % 32).toNat + 0 : Nat) : Int) = y % 32 := by omega
  rw [atX, atY] at drawn
  unfold draw
  rw [run_bind, drawn]
  simp only [Bool.false_or]
  rfl

lemma mirrors_drawSprite {word : UInt16} (x y : UInt8) (sprite : List UInt8) :
    MirrorsAction word id (drawSprite (number x) (number y) (numbers sprite))
      (Machine.Action.drawSprite x y sprite) := by
  intro machine
  rw [drawSprite, run_bind, run_get]
  dsimp only
  rw [Machine.toRaw_spritesWrap, run_draw]
  rfl

end Raw

end Chip8
