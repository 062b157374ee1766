import Chip8.Text.Numeral
import Chip8.Text.Printable

/-!
# Quoted text

Text inside a message is put between quotes, with everything that does not show as itself written
as an escape. The mark is the single quote, unless the text holds single quotes and no double
ones; a backslash and the mark itself are preceded by a backslash.
-/

namespace Chip8.Quoted

/-- The mark that encloses a text. -/
def mark (text : List Char) : Char :=
  if text.contains '\x27' && !text.contains '\x22' then '\x22' else '\x27'

/-- The number of a code point as an escape: two, four or eight lower-case hexadecimal places. -/
def codeEscape (code : Nat) : List Char :=
  let places (letter : Char) (width : Nat) :=
    '\\' :: letter :: (Numeral.signed 16 width code).map Char.toLower
  if code < 0x100 then places 'x' 2
  else if code < 0x10000 then places 'u' 4
  else places 'U' 8

/-- One character of a text enclosed in `quote`. -/
def escape (quote c : Char) : List Char :=
  if c = quote ∨ c = '\\' then ['\\', c]
  else if c = '\n' then ['\\', 'n']
  else if c = '\r' then ['\\', 'r']
  else if c = '\t' then ['\\', 't']
  else if Printable.isPrintable c then [c]
  else codeEscape c.toNat

/-- A text between quotes. -/
def encode (text : List Char) : List Char :=
  let quote := mark text
  quote :: text.flatMap (escape quote) ++ [quote]

end Chip8.Quoted

/-- A text between quotes, as messages show it. -/
def Chip8.quoted (text : String) : String :=
  String.ofList (Quoted.encode text.toList)
