/-!
# Control sequences

A terminal takes some text as a command: the escape character and an opening bracket, then
parameters, then intermediate characters, then one final character. The three groups hold
different characters, so a sequence has one end at most. Without its final character it is text
like any other.
-/

namespace Chip8.ControlSequence

/-- The characters of parameters: digits, `:`, `;`, `<`, `=`, `>` and `?`. -/
def isParameter (c : Char) : Bool := 0x30 ≤ c.toNat && c.toNat ≤ 0x3F

/-- The characters between the parameters and the end: the blank and what follows it up to `/`. -/
def isIntermediate (c : Char) : Bool := 0x20 ≤ c.toNat && c.toNat ≤ 0x2F

/-- The characters that end a sequence: letters, `@` and the marks between `Z` and `~`. -/
def isFinal (c : Char) : Bool := 0x40 ≤ c.toNat && c.toNat ≤ 0x7E

/-- What follows the sequence whose parameters come first in a text, if it ends. -/
def behind? (text : List Char) : Option (List Char) :=
  match (text.dropWhile isParameter).dropWhile isIntermediate with
  | [] => none
  | c :: rest => if isFinal c then some rest else none

/-- What follows a sequence is shorter than the sequence and it together. -/
theorem length_lt_of_behind? {text rest : List Char} (h : behind? text = some rest) :
    rest.length < text.length := by
  have shorter : ((text.dropWhile isParameter).dropWhile isIntermediate).length ≤ text.length :=
    Nat.le_trans (List.dropWhile_sublist _).length_le (List.dropWhile_sublist _).length_le
  rw [behind?] at h
  split at h
  · exact absurd h (by simp)
  · next tail eq =>
    rw [eq, List.length_cons] at shorter
    split at h
    · cases h
      exact shorter
    · exact absurd h (by simp)

/-- A text without its control sequences. What is left is not searched again. -/
def strip : List Char → List Char
  | [] => []
  | '\x1b' :: '[' :: text =>
    match _ : behind? text with
    | some rest => strip rest
    | none => '\x1b' :: strip ('[' :: text)
  | c :: text => c :: strip text
termination_by text => text.length
decreasing_by
  · next h =>
    have := length_lt_of_behind? h
    simp only [List.length_cons]
    omega
  all_goals simp

end Chip8.ControlSequence

/-- A line as it is printed: without control sequences, and ended. -/
def Chip8.printed (line : String) : String :=
  String.ofList (ControlSequence.strip line.toList) ++ "\n"
