/-!
# Numerals

Signed numbers as text. A number is written with an optional minus sign, as many zeros as its
width asks for, and its digits; the width counts the sign, so `-1` in four places is `-001` and a
number that needs more places is written in full.
-/

namespace Chip8.Numeral

/-- The greatest number of decimal digits that is read, or written in a message. -/
def digitLimit : Nat := 4300

/-- A number with no more decimal digits than are written. -/
def IsShort (number : Int) : Prop := number.natAbs < Nat.pow 10 digitLimit

instance (number : Int) : Decidable (IsShort number) := Nat.decLt _ _

theorem isShort_of_lt {number : Nat} (small : number < 100000) : IsShort number := by
  have bound {limit : Nat} (atLeast : 5 ≤ limit) : Nat.pow 10 5 ≤ Nat.pow 10 limit :=
    Nat.pow_le_pow_right (Nat.succ_pos 9) atLeast
  exact Nat.lt_of_lt_of_le small (bound (by decide : 5 ≤ digitLimit))

/-- The digits of a number, most significant first, letters in upper case; zero has one digit. -/
def digits (base number : Nat) : List Char :=
  (Nat.toDigits base number).map Char.toUpper

/-- The characters of a signed number, padded with zeros between the sign and the digits. -/
def signed (base width : Nat) (number : Int) : List Char :=
  let sign := if number < 0 then ['-'] else []
  let body := digits base number.natAbs
  sign ++ List.replicate (width - (sign.length + body.length)) '0' ++ body

/-- Signed decimal text. -/
def decimal (number : Int) : String :=
  String.ofList (signed 10 0 number)

/-- Signed upper-case hexadecimal text of at least `width` characters. -/
def hex (width : Nat) (number : Int) : String :=
  String.ofList (signed 16 width number)

/-- An address or instruction word as it appears in messages: a dollar sign and four places. -/
def word (number : Int) : String :=
  "$" ++ hex 4 number

end Chip8.Numeral
