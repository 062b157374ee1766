import Chip8.Error

/-!
# Register dumps

The registers as numbers, to be shown or compared. The summary of a dump has two lines: the
general registers in two hexadecimal places each, then the program counter and index register in
four, the stack depth and the timers in decimal, and a remark if the machine waits for a key.
-/

namespace Chip8

/-! ## Readings -/

/-- A number as a snapshot of registers holds it. Truth values are numbers too, one and zero, but where
a number is written in decimal they are written as words. -/
inductive Reading
  | number (value : Int)
  | truth (value : Bool)
deriving DecidableEq, Repr

namespace Reading

/-- The number that a reading stands for. -/
def value : Reading → Int
  | number value => value
  | truth value => if value then 1 else 0

/-- In decimal, numbers are not written if they have too many digits. -/
def IsWritable : Reading → Prop
  | number value => Numeral.IsShort value
  | truth _ => True

instance : DecidablePred IsWritable
  | number value => inferInstanceAs (Decidable (Numeral.IsShort value))
  | truth _ => inferInstanceAs (Decidable True)

end Reading

/-- A reading that can be written in decimal. -/
structure Count where
  reading : Reading
  isWritable : reading.IsWritable
deriving DecidableEq

namespace Count

/-- A number that is small enough for every register. -/
def ofNat (number : Nat) (small : number < 100000) : Count where
  reading := .number number
  isWritable := Numeral.isShort_of_lt small

/-- A byte. -/
def ofByte (byte : UInt8) : Count :=
  .ofNat byte.toNat (Nat.lt_trans byte.toNat_lt (by decide))

/-- The reading, if it can be written. -/
def ofReading (reading : Reading) : Except Misuse Count :=
  if isWritable : reading.IsWritable then .ok { reading, isWritable } else .error .tooManyDigits

/-- The text in decimal. -/
def text (count : Count) : String :=
  match count.reading with
  | .number value => Numeral.decimal value
  | .truth value => if value then "True" else "False"

end Count

/-! ## Dumps -/

/-- The values of all registers. -/
structure RegisterDump where
  v : Vector Int 16
  pc : Int
  index : Int
  depth : Count
  delay : Count
  sound : Count
  waiting : Bool
deriving DecidableEq

namespace RegisterDump

/-- The summary of the general registers. -/
def generalLine (dump : RegisterDump) : String :=
  " ".intercalate <| (List.finRange 16).map fun x =>
    "V" ++ Numeral.hex 1 x.val ++ "=" ++ Numeral.hex 2 dump.v[x]

/-- The summary of the other registers. -/
def stateLine (dump : RegisterDump) : String :=
  "PC=" ++ Numeral.word dump.pc ++ " I=" ++ Numeral.word dump.index ++
    " SP=" ++ dump.depth.text ++ " DT=" ++ dump.delay.text ++ " ST=" ++ dump.sound.text ++
    (if dump.waiting then " (waiting for key)" else "")

/-- Both lines of the summary. -/
def summary (dump : RegisterDump) : String :=
  dump.generalLine ++ "\n" ++ dump.stateLine

/-! ## Named entries -/

/-- The name of the entry of a general register. -/
def registerName (x : Fin 16) : String :=
  "v" ++ (Numeral.hex 1 x.val).toLower

/-- The dump as named readings; the last entry tells whether the machine waits. -/
def entries (dump : RegisterDump) : List (String × Reading) :=
  ((List.finRange 16).map fun x => (registerName x, .number dump.v[x])) ++
    [("i", .number dump.index), ("pc", .number dump.pc), ("sp", dump.depth.reading),
      ("dt", dump.delay.reading), ("st", dump.sound.reading), ("awaiting_key", .truth dump.waiting)]

/-- Looks a named reading up. -/
def entry (entries : List (String × Reading)) (name : String) : Except Misuse Reading :=
  match entries.lookup name with
  | some reading => .ok reading
  | none => .error (.missingEntry name)

/-- Looks a number up. -/
def number (entries : List (String × Reading)) (name : String) : Except Misuse Int :=
  Reading.value <$> entry entries name

/-- Looks a number up that is to be written in decimal. -/
def count (entries : List (String × Reading)) (name : String) : Except Misuse Count :=
  entry entries name >>= Count.ofReading

/-- The dump with the given entries. The general registers are looked up first, then the others in
the order of the summary; the first entry that is missing or cannot be written is reported. -/
def ofEntries (entries : List (String × Reading)) : Except Misuse RegisterDump := do
  let general ← (Vector.ofFn registerName).mapM (number entries)
  return {
    v := general
    pc := ← number entries "pc"
    index := ← number entries "i"
    depth := ← count entries "sp"
    delay := ← count entries "dt"
    sound := ← count entries "st"
    waiting := (← number entries "awaiting_key") != 0 }

end RegisterDump

end Chip8
