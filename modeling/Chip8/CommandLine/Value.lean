import Chip8.Keypad
import Chip8.Text.Integer

/-!
# Values of options

Integers, addresses and keys as they are written on the command line. An address is hexadecimal
behind a dollar sign or `0x` and decimal otherwise. A key is given by its place on the keyboard, or
by its code in hexadecimal behind `0x`.
-/

namespace Chip8

/-- Why the value of an option is refused. -/
inductive ValueError
  | notInteger (text : String)
  /-- As `notInteger`, where only a range of integers is admitted. -/
  | notIntegerRange (text : String)
  | belowRange (number least : Int)
  | unreadable (base : Nat) (text : List Char) (error : Integer.ReadError)
  | addressOutside (number : Int)
  | unknownKey (text : String)
  | keyCode (misuse : Misuse)
  | fileMissing (path : String)
  | fileIsDirectory (path : String)
  | pathInvalid
deriving DecidableEq, Repr

/-- The refusal in words. -/
def ValueError.message : ValueError → String
  | notInteger text => quoted text ++ " is not a valid integer."
  | notIntegerRange text => quoted text ++ " is not a valid integer range."
  | belowRange number least =>
    Numeral.decimal number ++ " is not in the range x>=" ++ Numeral.decimal least ++ "."
  | unreadable base text error => error.message base text
  | addressOutside number => "address $" ++ Numeral.hex 0 number ++ " outside $000-$FFF"
  | unknownKey text => "unknown key '" ++ text ++ "'"
  | keyCode misuse => misuse.message
  | fileMissing path => "File " ++ quoted path ++ " does not exist."
  | fileIsDirectory path => "File " ++ quoted path ++ " is a directory."
  | pathInvalid => Misuse.invalidPath.message

namespace Value

/-- Whether a text begins with the mark of a hexadecimal number. -/
def hasHexMark : List Char → Bool
  | '0' :: x :: _ => x = 'x' || x = 'X'
  | _ => false

/-- Reads an integer. -/
def readInteger (base : Nat) (text : List Char) : Except ValueError Int :=
  match Integer.read base text with
  | .ok number => .ok number
  | .error error => .error (.unreadable base text error)

/-! ## Addresses -/

/-- The digits of an address and the base they are written in. -/
def addressBody (text : List Char) : Nat × List Char :=
  match text with
  | '$' :: body => (16, body)
  | text => if hasHexMark text then (16, text.drop 2) else (10, text)

/-- The address that a text stands for. -/
def address (text : String) : Except ValueError (Fin 4096) := do
  let (base, body) := addressBody (Blank.trim text.toList)
  let number ← readInteger base body
  if h : 0 ≤ number ∧ number < 4096 then return ⟨number.toNat, by omega⟩
  else throw (.addressOutside number)

/-! ## Keys -/

/-- The key that a text stands for. -/
def key (text : String) : Except ValueError Key :=
  match KeyReference.resolve (.place text) with
  | .ok key => .ok key
  | .error _ =>
    if hasHexMark text.toList then do
      let number ← readInteger 16 text.toList
      match KeyReference.resolve (.code number) with
      | .ok key => return key
      | .error misuse => throw (.keyCode misuse)
    else .error (.unknownKey text)

/-! ## Numbers -/

/-- The integer that a text stands for. -/
def integer (text : String) : Except ValueError Int :=
  match Integer.read 10 text.toList with
  | .ok number => .ok number
  | .error _ => .error (.notInteger text)

/-- The integer that a text stands for, which must not be less than a bound. -/
def integerFrom (least : Nat) (text : String) : Except ValueError Nat :=
  match Integer.read 10 text.toList with
  | .ok number =>
    if (least : Int) ≤ number then .ok number.toNat else .error (.belowRange number least)
  | .error _ => .error (.notIntegerRange text)

end Value

end Chip8
