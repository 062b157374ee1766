import Chip8.Picture

/-!
# The screen

The screen is a grid of 64 by 32 pixels that are on or off, column and row zero at the top left,
kept row by row. Besides, it remembers whether it may have changed since it was last shown: only
taking the pixels for showing them acknowledges a change, looking at them does not.
-/

namespace Chip8

/-- The place of a pixel in the rows laid end to end. -/
abbrev Pixel := Fin 2048

/-- The pixel in a column and row. -/
def Pixel.at (column : Fin 64) (row : Fin 32) : Pixel :=
  ⟨64 * row + column, by omega⟩

/-- The pixels that are on, and whether the screen waits to be shown. -/
structure Screen where
  pixels : Vector Bool 2048
  isStale : Bool
deriving DecidableEq

namespace Screen

/-- The screen at power-on, and after it is cleared: dark, and not shown yet. -/
def blank : Screen where
  pixels := Vector.replicate 2048 false
  isStale := true

/-- Acknowledges that the screen has been shown. -/
def acknowledge (screen : Screen) : Screen :=
  { screen with isStale := false }

/-! ## Views -/

/-- Whether the pixel in a column and row is on. -/
def isLit (screen : Screen) (column : Fin 64) (row : Fin 32) : Bool :=
  screen.pixels[Pixel.at column row]

/-- The pixel at a pair of coordinates, which must lie on the screen. -/
def pixel (screen : Screen) (x y : Int) : Except Misuse Bool :=
  if h : (0 ≤ x ∧ x < 64) ∧ 0 ≤ y ∧ y < 32 then
    .ok (screen.isLit ⟨x.toNat, by omega⟩ ⟨y.toNat, by omega⟩)
  else .error (.outside x y)

/-- The rows from top to bottom, each from left to right. -/
def rows (screen : Screen) : List (List Bool) :=
  (List.finRange 32).map fun row => (List.finRange 64).map fun column => screen.isLit column row

/-- The number of pixels that are on. -/
def litCount (screen : Screen) : Nat :=
  screen.pixels.toList.count true

/-- The screen as lines of text, with one text for pixels that are on and one for the others. -/
def text (screen : Screen) (on : String := "#") (off : String := ".") : String :=
  "\n".intercalate <| screen.rows.map fun row =>
    String.join (row.map fun lit => if lit then on else off)

/-! ## Showing -/

/-- The pixels as bytes, 255 for those that are on. Taking them acknowledges the change. -/
def takeBytes (screen : Screen) : List UInt8 × Screen :=
  (screen.pixels.toList.map fun lit => if lit then 255 else 0, screen.acknowledge)

/-- The screen in two colours, every pixel a square of `scale` by `scale`. The colour of the pixels
that are off is examined first, then that of the others, then the size. -/
def picture (screen : Screen) (scale : Nat) (on off : Paint) : Except Misuse Raster := do
  let off ← off.colour
  let on ← on.colour
  let colours := screen.rows.map fun row => row.map fun lit => if lit then on else off
  (Raster.ofLines 64 colours).enlarge? scale

/-- Takes a picture of the screen, which acknowledges the change even if it comes to nothing. Only a
scale below one is refused before, and acknowledges nothing. -/
def takePicture (scale : Int := 8) (on : Paint := .white) (off : Paint := .black) :
    EStateM Misuse Screen Raster := fun screen =>
  if scale < 1 then .error (.scale scale) screen
  else
    match screen.picture scale.toNat on off with
    | .ok raster => .ok raster screen.acknowledge
    | .error misuse => .error misuse screen.acknowledge

end Screen

end Chip8
