import Chip8.Error
import Chip8.Place

/-!
# The keypad

The machine has sixteen keys with the codes `0` to `F`, each of them up or down. The host sets
them all at once or one by one. It names a key by its code, or by the key of a common keyboard
that lies in the same place:

    1 2 3 C        1 2 3 4
    4 5 6 D        Q W E R
    7 8 9 E        A S D F
    A 0 B F        Z X C V
-/

namespace Chip8

/-- The code of a key. -/
abbrev Key := Fin 16

/-! ## Naming keys -/

/-- The characters of the keyboard keys, in the order of the codes of the keys in their places. -/
def Key.places : Vector Char 16 :=
  #v['X', '1', '2', '3', 'Q', 'W', 'E', 'A', 'S', 'D', 'Z', 'C', '4', 'R', 'F', 'V']

/-- The key at the place of a keyboard key, given by its character in upper case. -/
def Key.ofPlace? (c : Char) : Option Key :=
  (List.finRange 16).find? fun key => Key.places.get key = c

/-- The upper-case form of a character, as far as keyboard keys have one: besides the small
letters only the long s is written with a capital that names a key. -/
def Key.upper (c : Char) : Char :=
  if c = 'ſ' then 'S' else c.toUpper

/-- How a host refers to a key. -/
inductive KeyReference
  | place (name : String)
  | code (number : Int)
deriving DecidableEq, Repr

/-- The key that a host refers to. -/
def KeyReference.resolve : KeyReference → Except Misuse Key
  | .place name =>
    match name.toList with
    | [c] => match Key.ofPlace? (Key.upper c) with
      | some key => .ok key
      | none => .error (.unknownKey name)
    | _ => .error (.unknownKey name)
  | .code number =>
    match Place.ofNumber? number with
    | some key => .ok key
    | none => .error (.keyCode number)

/-! ## The keys -/

/-- For every key whether it is down. -/
structure Keypad where
  down : Vector Bool 16
deriving DecidableEq, Repr

namespace Keypad

/-- All keys up. -/
def released : Keypad where
  down := Vector.replicate 16 false

/-- Sets all keys, given in the order of their codes. -/
def ofList (states : List Bool) : Except Misuse Keypad :=
  if h : states.length = 16 then .ok { down := ⟨states.toArray, by simpa using h⟩ }
  else .error (.latchLength states.length)

/-- Whether a key is down. -/
def isDown (keypad : Keypad) (key : Key) : Bool := keypad.down[key]

/-- Whether the key with an index is down. Indexes from -16 to -1 count back from the last key. -/
def lookUp (keypad : Keypad) (index : Int) : Except Misuse Bool :=
  match Place.ofIndex? index with
  | some key => .ok (keypad.isDown key)
  | none => .error (.keyIndex index)

/-- The keys that are down, in the order of their codes. -/
def pressed (keypad : Keypad) : List Key :=
  (List.finRange 16).filter keypad.isDown

/-- The key with the least code that is down. -/
def lowestDown? (keypad : Keypad) : Option Key :=
  (List.finRange 16).find? keypad.isDown

/-- Puts one key down or up. -/
def set (keypad : Keypad) (key : Key) (isDown : Bool) : Keypad where
  down := keypad.down.set key isDown

/-- Puts the key that a host refers to down. -/
def press (keypad : Keypad) (reference : KeyReference) : Except Misuse Keypad :=
  reference.resolve.map (keypad.set · true)

/-- Puts the key that a host refers to up. -/
def release (keypad : Keypad) (reference : KeyReference) : Except Misuse Keypad :=
  reference.resolve.map (keypad.set · false)

/-- The keypad on which just the keys in a list are down. -/
def ofReferences (references : List KeyReference) : Except Misuse Keypad := do
  let keys ← references.mapM KeyReference.resolve
  return { down := Vector.ofFn fun key => keys.contains key }

/-- The keys that are down, for a log. -/
def summary (keypad : Keypad) : String :=
  let names := keypad.pressed.map fun key => Numeral.hex 1 key.val
  "Keypad(down=[" ++ ", ".intercalate names ++ "])"

end Keypad

end Chip8
