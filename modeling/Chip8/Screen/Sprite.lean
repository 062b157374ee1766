import Chip8.Screen.Basic

/-!
# Drawing sprites

A sprite is a list of rows of eight bits, the most significant bit leftmost. Its origin is taken
modulo the size of the screen, so it always begins on the screen. Every bit that is set flips the
pixel it lands on; a bit that would land past the right or bottom edge is dropped, or comes back
at the opposite edge if sprites wrap. The drawing collides when a flip turns a pixel off.

`landings` says where the set bits land, in the order in which they are drawn; `Screen.draw` flips
these pixels one after the other. Coordinates and rows are integers of any size, of which the low
bits count.
-/

namespace Chip8

namespace Sprite

/-- The columns, counted from the left, of the bits that are set in a row. -/
def setColumns (row : Int) : List Nat :=
  (List.range 8).filter fun column => (row >>> (7 - column)) % 2 = 1

/-- The pixel that a bit lands on, if any. -/
def landing? (wrap : Bool) (column row : Nat) : Option Pixel :=
  if wrap then
    some (Pixel.at ⟨column % 64, Nat.mod_lt _ (by decide)⟩ ⟨row % 32, Nat.mod_lt _ (by decide)⟩)
  else if h : column < 64 ∧ row < 32 then some (Pixel.at ⟨column, h.1⟩ ⟨row, h.2⟩)
  else none

/-- The pixels that the set bits of a sprite land on, row by row. -/
def landings (wrap : Bool) (x y : Int) (rows : List Int) : List Pixel :=
  rows.zipIdx.flatMap fun (bits, row) =>
    (setColumns bits).filterMap fun column =>
      landing? wrap ((x % 64).toNat + column) ((y % 32).toNat + row)

/-- Flips pixels one after the other, and says whether one was turned off. -/
def flip : List Pixel → Vector Bool 2048 → Bool × Vector Bool 2048
  | [], pixels => (false, pixels)
  | place :: rest, pixels =>
    let lit := pixels[place]
    let (collision, pixels) := flip rest (pixels.set place (!lit))
    (lit || collision, pixels)

end Sprite

namespace Screen

/-- Draws a sprite, and says whether it collided. -/
def draw (screen : Screen) (x y : Int) (rows : List Int) (wrap : Bool) : Bool × Screen :=
  let (collision, pixels) := Sprite.flip (Sprite.landings wrap x y rows) screen.pixels
  (collision, { pixels, isStale := true })

end Screen

end Chip8
