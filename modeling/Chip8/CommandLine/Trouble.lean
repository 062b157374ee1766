import Chip8.Error
import Chip8.Text.ControlSequence

/-!
# Troubles

How a run that fails is reported to the caller: one line without control sequences, and an exit
code that tells a program that failed from arguments that make no sense and from everything else.
-/

namespace Chip8

/-- What made a run fail. -/
inductive Trouble
  /-- The program faulted. -/
  | fault (cause : Fault)
  /-- The machine could not be set up. -/
  | machine (message : String)
  /-- The host asked for something that makes no sense. -/
  | argument (message : String)
  /-- A file is missing or may not be used. -/
  | file (message : String)
  | unforeseen (message : String)
deriving DecidableEq, Repr

namespace Trouble

/-- The exit code of a run that succeeds. -/
def success : Nat := 0

/-- The exit code of a run that fails. -/
def exitCode : Trouble → Nat
  | fault _ => 1
  | machine _ => 1
  | argument _ => 2
  | file _ => 2
  | unforeseen _ => 3

/-- The line about a trouble. -/
def line : Trouble → String
  | fault cause => cause.message
  | machine message => "Error: " ++ message
  | argument message => "Error: " ++ message
  | file message => "Error: " ++ message
  | unforeseen message => "Internal error: " ++ message

/-- All that is said about a trouble. Of an unforeseen one a verbose run also shows what is being
handled at that moment, which is nothing. -/
def report (verbose : Bool) (trouble : Trouble) : String :=
  let pending :=
    match trouble with
    | unforeseen _ => if verbose then "NoneType: None\n" else ""
    | _ => ""
  printed trouble.line ++ pending

/-- The trouble that an error means. -/
def ofError : Error → Trouble
  | .fault cause => .fault cause
  | .load cause => .machine cause.message
  | .misuse (.keyIndex index) => .unforeseen (Misuse.keyIndex index).message
  | .misuse (.registerIndex index) => .unforeseen (Misuse.registerIndex index).message
  | .misuse (.pixel x y) => .unforeseen (Misuse.pixel x y).message
  | .misuse (.missingEntry name) => .unforeseen (Misuse.missingEntry name).message
  | .misuse (.wideRed part) => .unforeseen (Misuse.wideRed part).message
  | .misuse (.wideNumber number) => .unforeseen (Misuse.wideNumber number).message
  | .misuse .pictureTooLarge => .unforeseen Misuse.pictureTooLarge.message
  | .misuse cause => .argument cause.message
  | .other description => .machine description

end Trouble

end Chip8
