import Chip8.Text.Numeral

/-!
# Faults of a running program

A program that does something undefined stops the machine. The fault says what was wrong and, as
far as it is known, where: the program counter and the instruction word. Addresses and keys are
integers of any size, because hosts report faults of their own through the same type.
-/

namespace Chip8

/-- What a program did wrong. -/
inductive Fault.Cause
  | undefinedInstruction
  | stackOverflow
  | stackUnderflow
  | memoryAccess (address : Int)
  | invalidKey (key : Int)
  | other (description : String)
deriving DecidableEq, Repr

/-- A description without the place. -/
def Fault.Cause.description : Fault.Cause → String
  | .undefinedInstruction => "undefined instruction"
  | .stackOverflow => "stack overflow"
  | .stackUnderflow => "stack underflow"
  | .memoryAccess address => "memory access out of bounds at " ++ Numeral.word address
  | .invalidKey key => "invalid key $" ++ Numeral.hex 2 key
  | .other description => description

/-- What a program did wrong, and where. -/
structure Fault where
  cause : Fault.Cause
  pc : Option Int := none
  opcode : Option Int := none
deriving DecidableEq, Repr

namespace Fault

/-- The known parts of the place, the program counter first. -/
def place (fault : Fault) : List String :=
  (fault.pc.map fun pc => "pc=" ++ Numeral.word pc).toList ++
    (fault.opcode.map fun opcode => "opcode=" ++ Numeral.word opcode).toList

/-- The diagnostic of a fault. -/
def message (fault : Fault) : String :=
  let text := "error: " ++ fault.cause.description
  match fault.place with
  | [] => text
  | parts => text ++ " (" ++ ", ".intercalate parts ++ ")"

end Fault

end Chip8
