import Chip8.Fault
import Chip8.SignedWord

/-!
# Errors

Everything that can go wrong around a machine, as causes; the wording stands in one function per
type. Faults belong to the program that runs, load errors to its image, and misuse to the host that
drives the machine.
-/

namespace Chip8

/-! ## Images -/

/-- Why an image cannot be loaded. -/
inductive LoadFailure
  | tooLarge (size : Nat)
  | noPath
  | unreadable (reason : String)
deriving DecidableEq, Repr

/-- The reason in words. -/
def LoadFailure.reason : LoadFailure → String
  | .tooLarge size => s!"image is {size} bytes, program area holds 3584"
  | .noPath => "no ROM path given"
  | .unreadable reason => reason

/-- A failed load, with the path of the image if it has one. -/
structure LoadError where
  failure : LoadFailure
  path : Option String := none
deriving DecidableEq, Repr

/-- The diagnostic of a failed load. -/
def LoadError.message (error : LoadError) : String :=
  match error.path with
  | some path => "cannot load ROM '" ++ path ++ "': " ++ error.failure.reason
  | none => "cannot load ROM: " ++ error.failure.reason

/-! ## Hosts -/

/-- A request of the host that makes no sense. -/
inductive Misuse
  | unknownKey (name : String)
  | keyCode (code : Int)
  | latchLength (entries : Nat)
  | keyIndex (index : Int)
  | registerIndex (index : Int)
  /-- A pixel outside the screen, with coordinates that can be told (`Misuse.outside`). -/
  | pixel (x y : Int)
  /-- A number that was to be told has more digits than are written. -/
  | tooManyDigits
  | scale (factor : Int)
  /-- The red part of a colour needs more than 64 bits. -/
  | wideRed (part : Int)
  /-- Another number that says what a picture is like needs more than 32 bits. -/
  | wideNumber (number : Int)
  | pictureTooLarge
  /-- A path holds a NUL character. -/
  | invalidPath
  | timerDivisor (cycles : Int)
  | missingEntry (name : String)
deriving DecidableEq, Repr

/-- The diagnostic of an index that leads nowhere: a general one if the index does not even fit in
a signed word of 64 bits. -/
def Misuse.indexMessage (outside : String) (index : Int) : String :=
  if SignedWord.fits64 index then outside
  else "cannot fit 'int' into an index-sized integer"

/-- The diagnostic of a number that does not fit in a signed word of 32 bits: a general one if it
does not even fit in 64 bits. -/
def Misuse.wideMessage (number : Int) : String :=
  if !SignedWord.fits64 number then "Python int too large to convert to C long"
  else if number < 0 then "signed integer is less than minimum"
  else "signed integer is greater than maximum"

/-- The diagnostic of a number that has more digits than are written. -/
def Misuse.digitsMessage : String :=
  s!"Exceeds the limit ({Numeral.digitLimit} digits) for integer string conversion; " ++
    "use sys.set_int_max_str_digits() to increase the limit"

/-- A diagnostic that ends with a number, if the number can be written. -/
def Misuse.messageWith (text : String) (number : Int) : String :=
  if Numeral.IsShort number then text ++ Numeral.decimal number else digitsMessage

/-- Looking at a pixel outside the screen. It is told with both coordinates, unless one of them has
too many digits. -/
def Misuse.outside (x y : Int) : Misuse :=
  if Numeral.IsShort x ∧ Numeral.IsShort y then .pixel x y else .tooManyDigits

/-- The diagnostic of a misuse. -/
def Misuse.message : Misuse → String
  | .unknownKey name =>
    "Unknown key '" ++ name ++ "'. Valid keys: 1, 2, 3, 4, Q, W, E, R, A, S, D, F, Z, X, C, V"
  | .keyCode code => messageWith "Key code must be 0-15, got " code
  | .latchLength entries => s!"Keypad state needs 16 entries, got {entries}"
  | .keyIndex index => indexMessage "list index out of range" index
  | .registerIndex index => indexMessage "list assignment index out of range" index
  | .pixel x y =>
    "pixel (" ++ Numeral.decimal x ++ ", " ++ Numeral.decimal y ++ ") outside 64x32 display"
  | .tooManyDigits => digitsMessage
  | .scale factor => messageWith "scale must be >= 1, got " factor
  | .wideRed _ => "int too big to convert"
  | .wideNumber number => wideMessage number
  | .pictureTooLarge => ""
  | .invalidPath => "embedded null byte"
  | .timerDivisor cycles => messageWith "cycles_per_timer_tick must be >= 1, got " cycles
  | .missingEntry name => "'" ++ name ++ "'"

/-! ## All errors -/

/-- Everything that can go wrong. -/
inductive Error
  | fault (cause : Fault)
  | load (cause : LoadError)
  | misuse (cause : Misuse)
  | other (description : String)
deriving DecidableEq, Repr

/-- The diagnostic of an error. -/
def Error.message : Error → String
  | .fault cause => cause.message
  | .load cause => cause.message
  | .misuse cause => cause.message
  | .other description => description

end Chip8
