import Chip8.Runs

/-!
# Rasters

A picture as lines of coloured pixels, kept as runs of equal lines, each of them runs of equal
pixels. A picture made of large squares thus stays small however large the squares are.
-/

namespace Chip8

/-- A colour by its red, green and blue parts. -/
structure Colour where
  red : UInt8
  green : UInt8
  blue : UInt8
deriving DecidableEq, Repr

namespace Colour

/-- All parts full. -/
def white : Colour := ⟨255, 255, 255⟩

/-- All parts empty. -/
def black : Colour := ⟨0, 0, 0⟩

/-- The colour with the given parts, each brought into the range from 0 to 255. -/
def ofParts (red green blue : Int) : Colour :=
  let part (number : Int) : UInt8 := UInt8.ofNat (min number.toNat 255)
  ⟨part red, part green, part blue⟩

end Colour

/-- A picture: its width, and its lines from top to bottom. -/
structure Raster where
  width : Nat
  lines : Runs (Runs Colour)
deriving DecidableEq, Repr

namespace Raster

/-- A picture given line by line. -/
def ofLines (width : Nat) (lines : List (List Colour)) : Raster where
  width
  lines := Runs.ofList (lines.map Runs.ofList)

/-- The number of lines. -/
def height (raster : Raster) : Nat := raster.lines.size

/-- Replaces every pixel by a square of `factor` by `factor` pixels. -/
def enlarge (factor : Nat) (raster : Raster) : Raster where
  width := raster.width * factor
  lines := (raster.lines.mapEntries (Runs.stretch factor)).stretch factor

/-- The pixels of every line. -/
def pixels (raster : Raster) : List (List Colour) :=
  raster.lines.expand.map Runs.expand

/-- The pixel in a column of a line. -/
def pixel? (raster : Raster) (column line : Nat) : Option Colour :=
  raster.lines.expand[line]? >>= fun runs => runs.expand[column]?

end Raster

end Chip8
