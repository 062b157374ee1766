import Chip8.Proofs.SpriteCompositing

/-!
# Drawing again and in another order

What a drawing does depends only on how often it flips each pixel (`Sprite.flip_perm`). So two drawings can
change places, and a drawing that is repeated takes itself back. What depends on the order is which of two
drawings collides, but not whether one of them does. How many flips turn a pixel off
(`Sprite.erasures`) is found by counting: every flip makes one pixel more or one less.
-/

namespace Chip8

namespace Sprite

/-! ## The order of flips -/

/-- The order in which pixels are flipped does not matter. -/
lemma flip_perm {places others : List Pixel} (same : places.Perm others)
    (pixels : Vector Bool 2048) : flip places pixels = flip others pixels := by
  have collision : (flip places pixels).1 = (flip others pixels).1 := by
    rw [Bool.eq_iff_iff, flip_collides, flip_collides]
    simp only [same.count_eq]
  have drawn : (flip places pixels).2 = (flip others pixels).2 := by
    apply Vector.ext
    intro i below
    have left := flip_pixel places pixels ⟨i, below⟩
    have right := flip_pixel others pixels ⟨i, below⟩
    rw [same.count_eq, ← right] at left
    exact left
  exact Prod.ext collision drawn

/-- Flipping the same pixels again restores them. -/
lemma flip_twice (places : List Pixel) (pixels : Vector Bool 2048) :
    (flip places (flip places pixels).2).2 = pixels := by
  apply Vector.ext
  intro i below
  have again := flip_pixel places (flip places pixels).2 ⟨i, below⟩
  rw [flip_pixel places pixels, Bool.xor_assoc, Bool.xor_self, Bool.xor_false] at again
  exact again

/-! ## Flips that turn a pixel off -/

/-- The number of flips that turn a pixel off. -/
def erasures : List Pixel → Vector Bool 2048 → Nat
  | [], _ => 0
  | place :: rest, pixels =>
    (pixels.get place).toNat + erasures rest (flip [place] pixels).2

lemma flip_collides_iff_erasures (places : List Pixel) (pixels : Vector Bool 2048) :
    (flip places pixels).1 = true ↔ 0 < erasures places pixels := by
  induction places generalizing pixels with
  | nil => simp [flip, erasures]
  | cons place rest ih =>
    let next := (flip [place] pixels).2
    show (pixels.get place || (flip rest next).1) = true ↔
      0 < (pixels.get place).toNat + erasures rest next
    rw [Bool.or_eq_true, ih next]
    cases pixels.get place <;> simp

/-- One flip makes one more pixel that is on, or one less. -/
lemma count_flip_one (pixels : Vector Bool 2048) (place : Pixel) :
    (flip [place] pixels).2.toList.count true + 2 * (pixels.get place).toNat =
      pixels.toList.count true + 1 := by
  show (pixels.set place (!pixels.get place) place.isLt).toList.count true + _ = _
  have inside : place.val < pixels.toList.length := by
    rw [Vector.length_toList]
    exact place.isLt
  have here : pixels.toList.get ⟨place, inside⟩ = pixels.get place := Vector.getElem_toList _
  rw [Vector.toList_set, List.count_set inside, show pixels.toList[place.val] = _ from here]
  cases lit : pixels.get place with
  | false => simp
  | true =>
    have counted : 0 < pixels.toList.count true := by
      rw [List.count_pos_iff, ← lit, ← here]
      exact List.get_mem _ _
    show pixels.toList.count true - 1 + 0 + 2 * 1 = pixels.toList.count true + 1
    omega

/-- Every flip makes one more pixel that is on, but those that turn one off make one less. -/
lemma count_flip (places : List Pixel) (pixels : Vector Bool 2048) :
    (flip places pixels).2.toList.count true + 2 * erasures places pixels =
      pixels.toList.count true + places.length := by
  induction places generalizing pixels with
  | nil => simp [flip, erasures]
  | cons place rest ih =>
    let next := (flip [place] pixels).2
    have one : next.toList.count true + 2 * (pixels.get place).toNat =
        pixels.toList.count true + 1 := count_flip_one pixels place
    have others := ih next
    show (flip rest next).2.toList.count true + 2 * ((pixels.get place).toNat + erasures rest next) =
      pixels.toList.count true + (rest.length + 1)
    omega

end Sprite

/-! ## Drawings -/

/-- A sprite and how it is to be drawn. -/
structure Drawing where
  x : Int
  y : Int
  rows : List Int
  wrap : Bool

namespace Drawing

variable (drawing other : Drawing) (screen : Screen)

/-- The drawing on a screen. -/
def on : Bool × Screen := screen.draw drawing.x drawing.y drawing.rows drawing.wrap

/-- The loops that draw it on plain lists. -/
def onLists : Raw.Program Bool := Raw.draw drawing.x drawing.y drawing.rows drawing.wrap

/-- The pixels that its bits land on. -/
def places : List Pixel := Sprite.landings drawing.wrap drawing.x drawing.y drawing.rows

/-- The number of its set bits that land on the screen. -/
def landed : Nat :=
  Finset.card {place : Fin drawing.rows.length × Fin 8 |
    Sprite.isSet drawing.rows[place.1] place.2 = true ∧
      ∃ column line, Sprite.LandsOn drawing.wrap drawing.x drawing.y place.2 place.1 column line}

/-- Two drawings one after the other, and whether one of them collides. -/
def thenOn : Bool × Screen :=
  let (collision, drawn) := drawing.on screen
  let (collision', both) := other.on drawn
  (collision || collision', both)

/-- The same loops on plain lists. -/
def thenOnLists : Raw.Program Bool := do
  let collision ← drawing.onLists
  let collision' ← other.onLists
  return collision || collision'

lemma length_places : drawing.places.length = drawing.landed := by
  rw [← List.countP_true, places, Sprite.countP_landings, landed]
  congr 1
  ext place
  simp only [Option.any_eq_true, and_true, Screen.exists_pixel_iff, Sprite.landing?_eq_some_iff]

lemma thenOn_eq : drawing.thenOn other screen =
    let (collision, pixels) := Sprite.flip (drawing.places ++ other.places) screen.pixels
    (collision, { pixels, isStale := true }) := by
  rw [Raw.flip_append]
  rfl

lemma run_thenOnLists (machine : Machine) :
    drawing.thenOnLists other machine.toRaw =
      .ok (drawing.thenOn other machine.screen).1
        ({ machine with screen := (drawing.thenOn other machine.screen).2 } : Machine).toRaw := by
  unfold thenOnLists
  rw [run_bind, onLists, Raw.run_draw]
  dsimp only
  rw [run_bind, onLists, Raw.run_draw]
  rfl

end Drawing

/-- Drawings take themselves back, and can change places: the pixels are the same, and so is whether one of
the two collides. A drawing does not collide if and only if it makes as many more pixels that are on as it
has set bits that land on the screen. The loops that draw on plain lists, one after the other, come to
the same. -/
theorem Screen.drawings_cancel_and_commute (screen : Screen) (drawing other : Drawing) :
    let (collision, drawn) := drawing.on screen
    (drawing.on drawn).2.pixels = screen.pixels ∧
    drawing.thenOn other screen = other.thenOn drawing screen ∧
    (collision = false ↔ drawn.litCount = screen.litCount + drawing.landed) ∧
    ∀ machine : Machine, machine.screen = screen →
      drawing.thenOnLists other machine.toRaw =
        .ok (drawing.thenOn other screen).1
          ({ machine with screen := (drawing.thenOn other screen).2 } : Machine).toRaw := by
  refine ⟨?_, ?_, ?_, ?_⟩
  · exact Sprite.flip_twice drawing.places screen.pixels
  · rw [Drawing.thenOn_eq, Drawing.thenOn_eq, Sprite.flip_perm List.perm_append_comm]
  · have collides := Sprite.flip_collides_iff_erasures drawing.places screen.pixels
    have counted := Sprite.count_flip drawing.places screen.pixels
    rw [drawing.length_places] at counted
    show (Sprite.flip drawing.places screen.pixels).1 = false ↔
      (Sprite.flip drawing.places screen.pixels).2.toList.count true =
        screen.pixels.toList.count true + drawing.landed
    rw [← Bool.not_eq_true, collides]
    omega
  · rintro machine rfl
    exact drawing.run_thenOnLists other machine

-- Which of two drawings collides does depend on the order: here it is the later one.
example :
    let dot : Drawing := { x := 0, y := 0, rows := [0x80], wrap := false }
    let line : Drawing := { x := 0, y := 0, rows := [0xFF], wrap := false }
    (dot.on .blank).1 = false ∧ (dot.on (line.on .blank).2).1 = true := by decide +kernel

end Chip8
