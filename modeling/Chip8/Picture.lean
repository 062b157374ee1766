import Chip8.Error
import Chip8.Raster

/-!
# Pictures on request

What a host may ask of a picture. It gives colours by parts that are integers of any size. Every
part is brought into the range from 0 to 255, unless it does not even fit in a signed word, which
has 64 bits for the red part and 32 for the others. The size of a picture must fit in signed words
of 32 bits, and all its pixels in memory.
-/

namespace Chip8

/-- A number that says what a picture is like, which must fit in 32 bits. -/
def Picture.narrow (number : Int) : Except Misuse Int :=
  if SignedWord.fits32 number then .ok number else .error (.wideNumber number)

/-- A colour as a host gives it. -/
structure Paint where
  red : Int
  green : Int
  blue : Int
deriving DecidableEq, Repr

namespace Paint

/-- All parts full. -/
def white : Paint := ⟨255, 255, 255⟩

/-- All parts empty. -/
def black : Paint := ⟨0, 0, 0⟩

/-- The colour that is meant. The parts are examined in the order red, green, blue. -/
def colour (paint : Paint) : Except Misuse Colour :=
  if SignedWord.fits64 paint.red then do
    return .ofParts paint.red (← Picture.narrow paint.green) (← Picture.narrow paint.blue)
  else .error (.wideRed paint.red)

end Paint

/-- The number of bytes that a picture can never have: the addresses of a program are fewer. -/
def Raster.memoryLimit : Nat := 0x800000000000

/-- Replaces every pixel by a square of `factor` by `factor` pixels, if the picture does not become
too large. A pixel takes four bytes. -/
def Raster.enlarge? (factor : Nat) (raster : Raster) : Except Misuse Raster := do
  let width ← Picture.narrow (raster.width * factor : Nat)
  let height ← Picture.narrow (raster.height * factor : Nat)
  if width * height * 4 < memoryLimit then return raster.enlarge factor
  else throw .pictureTooLarge

end Chip8
