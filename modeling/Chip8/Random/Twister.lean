/-!
# The Mersenne Twister

The random number generator MT19937: 624 words of state, renewed all together whenever they have
been used up, and tempered one by one on output. It is seeded with a list of words, which is
mixed into the state twice.
-/

namespace Chip8

/-- The words of state, and how many of them have been used. -/
structure Twister where
  state : Vector UInt32 624
  used : Nat

namespace Twister

/-- A word of a state, the places being counted modulo 624. -/
def entry (state : Vector UInt32 624) (place : Nat) : UInt32 :=
  state.get ⟨place % 624, Nat.mod_lt _ (by decide)⟩

/-- Replaces a word of a state, the places being counted modulo 624. -/
def setEntry (state : Vector UInt32 624) (place : Nat) (word : UInt32) : Vector UInt32 624 :=
  state.set (place % 624) word (Nat.mod_lt _ (by decide))

/-! ## Seeding -/

/-- How a word contributes to the one behind it. -/
def spread (word : UInt32) : UInt32 := word ^^^ (word >>> 30)

/-- The state that every seed is mixed into. -/
def base : Vector UInt32 624 :=
  (List.range 623).foldl
    (fun state k =>
      setEntry state (k + 1) (1812433253 * spread (entry state k) + UInt32.ofNat (k + 1)))
    (Vector.replicate 624 19650218)

/-- The place that is mixed after `place`. After the last place its word is copied to the front,
and mixing goes on with the second one. -/
def mixNext (state : Vector UInt32 624) (place : Nat) : Vector UInt32 624 × Nat :=
  if 623 ≤ place then (setEntry state 0 (entry state 623), 1) else (state, place + 1)

/-- Mixes every word of the key into the state, as often as the longer of both needs. -/
def mixKey (key : List UInt32) (state : Vector UInt32 624) : Vector UInt32 624 × Nat :=
  (List.range (max 624 key.length)).foldl
    (fun (state, place) k =>
      let j := k % key.length
      let word := (entry state place ^^^ (1664525 * spread (entry state (place - 1)))) +
        key.getD j 0 + UInt32.ofNat j
      mixNext (setEntry state place word) place)
    (state, 1)

/-- Mixes the state with itself. -/
def mixState (state : Vector UInt32 624) (place : Nat) : Vector UInt32 624 × Nat :=
  (List.range 623).foldl
    (fun (state, place) _ =>
      let word := (entry state place ^^^ (1566083941 * spread (entry state (place - 1)))) -
        UInt32.ofNat place
      mixNext (setEntry state place word) place)
    (state, place)

/-- The generator seeded with a list of words. -/
def ofKey (key : List UInt32) : Twister where
  state :=
    let (state, place) := mixKey key base
    setEntry (mixState state place).1 0 0x80000000
  used := 624

/-- The words of a number, the least significant first; zero has one word. -/
def wordsOf (number : Nat) : List UInt32 :=
  UInt32.ofNat number :: if number < 0x100000000 then [] else wordsOf (number / 0x100000000)
termination_by number
decreasing_by exact Nat.div_lt_self (by omega) (by decide)

/-- The generator seeded with a number, whose sign does not count. -/
def ofSeed (seed : Int) : Twister := ofKey (wordsOf seed.natAbs)

/-! ## Output -/

/-- The new word at a place: the word 397 places on, changed by the top bit of this word and the
low bits of the next one. -/
def renewed (state : Vector UInt32 624) (place : Nat) : UInt32 :=
  let joined := (entry state place &&& 0x80000000) ||| (entry state (place + 1) &&& 0x7FFFFFFF)
  let twist : UInt32 := if joined &&& 1 = 0 then 0 else 0x9908B0DF
  entry state (place + 397) ^^^ (joined >>> 1) ^^^ twist

/-- Renews all words, from the first to the last. -/
def renew (state : Vector UInt32 624) : Vector UInt32 624 :=
  (List.range 624).foldl (fun state place => setEntry state place (renewed state place)) state

/-- Evens out the bits of a word for output. -/
def temper (word : UInt32) : UInt32 :=
  let word := word ^^^ (word >>> 11)
  let word := word ^^^ ((word <<< 7) &&& 0x9D2C5680)
  let word := word ^^^ ((word <<< 15) &&& 0xEFC60000)
  word ^^^ (word >>> 18)

/-- The next random word. -/
def next (twister : Twister) : UInt32 × Twister :=
  let ⟨state, used⟩ := twister
  if used < 624 then (temper (entry state used), { state, used := used + 1 })
  else
    let state := renew state
    (temper (entry state 0), { state, used := 1 })

end Twister

end Chip8
