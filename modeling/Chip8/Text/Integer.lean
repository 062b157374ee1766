import Chip8.Text.Blank
import Chip8.Text.Digit
import Chip8.Text.Quoted

/-!
# Integers in text

An integer is blanks, a sign, digits and blanks again. Digits may be separated by single
underscores and may come from any script. In base sixteen the digits may be introduced by `0x`,
itself followed by at most one underscore. Decimal integers of more than `Numeral.digitLimit`
digits are refused, whatever follows the digits.
-/

namespace Chip8.Integer

/-- Why a text is not read as an integer. -/
inductive ReadError
  | malformed
  | tooLong (digits : Nat)
deriving DecidableEq, Repr

/-- What is said about a text that was to be read in a base. Long texts are cut before they are
closed by the quote. -/
def ReadError.message (base : Nat) (text : List Char) : ReadError → String
  | .malformed =>
    s!"invalid literal for int() with base {base}: " ++
      String.ofList ((Quoted.encode text).take 200)
  | .tooLong digits =>
    s!"Exceeds the limit ({Numeral.digitLimit} digits) for integer string conversion: " ++
      s!"value has {digits} digits; use sys.set_int_max_str_digits() to increase the limit"

/-- The sign in front of a number, and what follows it. -/
def splitSign : List Char → Bool × List Char
  | '-' :: rest => (true, rest)
  | '+' :: rest => (false, rest)
  | text => (false, text)

/-- Drops the mark of base sixteen: a zero of any script, an `x` and an optional underscore. -/
def dropBaseMark : List Char → List Char
  | first :: x :: rest =>
    if Digit.value? first = some 0 ∧ (x = 'x' ∨ x = 'X') then
      match rest with
      | '_' :: rest => rest
      | rest => rest
    else first :: x :: rest
  | text => text

/-- Reads digits with single underscores between them, up to the first other character. An
underscore is misplaced when it comes first, last or after another one; `afterMark` says whether
one may not come now. -/
def readDigits (base : Nat) (afterMark : Bool) : List Char → Option (List Nat × List Char)
  | [] => if afterMark then none else some ([], [])
  | c :: rest =>
    if c = '_' then
      if afterMark then none else readDigits base true rest
    else
      match Digit.valueIn? base c with
      | some digit => (readDigits base false rest).map fun (digits, tail) => (digit :: digits, tail)
      | none => if afterMark then none else some ([], c :: rest)

/-- The number whose digits, most significant first, are given. -/
def ofDigits (base : Nat) (digits : List Nat) : Nat :=
  digits.foldl (fun number digit => number * base + digit) 0

/-- Reads a text as an integer in base ten or sixteen. -/
def read (base : Nat) (text : List Char) : Except ReadError Int :=
  let (negative, rest) := splitSign (text.dropWhile Blank.isPadding)
  let body := if base = 16 then dropBaseMark rest else rest
  match readDigits base true body with
  | none => .error .malformed
  | some (digits, tail) =>
    if base = 10 ∧ Numeral.digitLimit < digits.length then .error (.tooLong digits.length)
    else if tail.all Blank.isPadding then
      let magnitude : Int := ofDigits base digits
      .ok (if negative then -magnitude else magnitude)
    else .error .malformed

end Chip8.Integer
