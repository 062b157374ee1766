import Chip8.Error
import Chip8.Overwrite
import Chip8.Proofs.ActionRuns
import Mathlib

/-!
# Plain numbers in lists

The raw machine keeps registers, memory and pixels in lists of integers, and neither the length of
a list nor the size of a number is fixed. An entry is read or replaced by its index, where an index
below zero counts back from the end, and it is an error if there is no such entry. A slice that
reaches past the end takes what there is, and a slice may be replaced by one of another length.

`numbers` are the entries of a vector of bytes as such a list. What is done to them inside the
vector needs no luck: the lemmas here say what comes out.
-/

namespace Chip8.Raw

variable {σ α : Type} {size : Nat}

/-! ## Trouble -/

/-- What can go wrong: the errors that a host is told of, and two that plain numbers add. -/
inductive Trouble
  | error (error : Error)
  /-- No entry of the list has the index. -/
  | noEntry (index : Int)
  /-- A number was to be put among bytes that is none. -/
  | noByte (number : Int)
deriving DecidableEq, Repr

/-! ## Entries -/

/-- The place that an index means in a list with a number of entries. -/
def place? (length : Nat) (index : Int) : Option Nat :=
  let fromStart := if index < 0 then index + length else index
  if 0 ≤ fromStart ∧ fromStart < length then some fromStart.toNat else none

/-- Reads an entry. -/
def item (list : List α) (index : Int) : EStateM Trouble σ α :=
  match (place? list.length index).bind (list[·]?) with
  | some entry => return entry
  | none => throw (.noEntry index)

/-- Replaces an entry. -/
def setItem (list : List α) (index : Int) (entry : α) : EStateM Trouble σ (List α) :=
  match place? list.length index with
  | some place => return list.set place entry
  | none => throw (.noEntry index)

/-- Replaces an entry among bytes. -/
def setByte (list : List Int) (index number : Int) : EStateM Trouble σ (List Int) :=
  if 0 ≤ number ∧ number < 256 then setItem list index number else throw (.noByte number)

lemma place?_natCast {length place : Nat} (inside : place < length) :
    place? length place = some place := by
  have fromStart : (if (place : Int) < 0 then (place : Int) + length else place) = place :=
    if_neg (by omega)
  unfold place?
  dsimp only
  rw [fromStart, if_pos (by omega), Int.toNat_natCast]

lemma item_natCast {list : List α} {place : Nat} (inside : place < list.length) :
    (item list place : EStateM Trouble σ α) = pure list[place] := by
  unfold item
  rw [place?_natCast inside, Option.bind_some, List.getElem?_eq_getElem inside]

lemma setItem_natCast {list : List α} {place : Nat} (inside : place < list.length) (entry : α) :
    (setItem list place entry : EStateM Trouble σ (List α)) = pure (list.set place entry) := by
  unfold setItem
  rw [place?_natCast inside]

/-! ## Slices -/

/-- Where a slice of a list begins or ends that is given by an index. -/
def bound (length : Nat) (index : Int) : Nat :=
  min (if index < 0 then index + length else index).toNat length

/-- The entries from one index up to another. -/
def slice (list : List α) (start stop : Int) : List α :=
  (list.take (bound list.length stop)).drop (bound list.length start)

/-- Replaces the entries from one index up to another. -/
def setSlice (list : List α) (start stop : Int) (entries : List α) : List α :=
  let start := bound list.length start
  list.take start ++ entries ++ list.drop (max start (bound list.length stop))

lemma bound_natCast {length place : Nat} (inside : place ≤ length) : bound length place = place := by
  unfold bound
  rw [if_neg (by omega), Int.toNat_natCast, min_eq_left inside]

lemma slice_natCast {list : List α} {start count : Nat} (inside : start + count ≤ list.length) :
    slice list start (start + count) = (list.drop start).take count := by
  unfold slice
  rw [← Nat.cast_add, bound_natCast inside, bound_natCast (by omega), List.drop_take,
    Nat.add_sub_cancel_left]

/-- Cutting the bounds of a slice to the length of the list changes nothing. -/
lemma drop_take_min (list : List α) (start stop : Nat) :
    (list.take (min stop list.length)).drop (min start list.length) =
      (list.take stop).drop start := by
  have taken : list.take (min stop list.length) = list.take stop := by
    rw [List.take_eq_take_iff]
    omega
  have dropped : (list.take stop).drop (min start list.length) = (list.take stop).drop start := by
    rw [List.drop_eq_drop_iff, List.length_take]
    omega
  rw [taken, dropped]

lemma setSlice_natCast {list : List α} {start : Nat} {entries : List α}
    (inside : start + entries.length ≤ list.length) :
    setSlice list start (start + entries.length) entries =
      list.take start ++ entries ++ list.drop (start + entries.length) := by
  unfold setSlice
  dsimp only
  rw [← Nat.cast_add, bound_natCast inside, bound_natCast (by omega),
    max_eq_right (Nat.le_add_right _ _)]

/-! ## Vectors as lists -/

/-- Overwriting a vector inside its bounds replaces a slice of its entries. -/
lemma toList_overwrite (data : Vector α size) (start : Nat) (entries : List α)
    (inside : start + entries.length ≤ size) :
    (overwrite data start entries).toList =
      data.toList.take start ++ entries ++ data.toList.drop (start + entries.length) := by
  induction entries generalizing data start with
  | nil => simp [overwrite]
  | cons entry rest ih =>
    have room : start < data.toList.length := by
      rw [Vector.length_toList]
      simp only [List.length_cons] at inside
      omega
    -- What stood before the block still does, now followed by its first entry; what stands behind
    -- the block was not reached.
    have before : (data.toList.set start entry).take (start + 1) = data.toList.take start ++ [entry] := by
      rw [List.take_add_one, List.take_set_of_le (Nat.le_refl _),
        List.getElem?_set_self room, Option.toList_some]
    have behind : (data.toList.set start entry).drop (start + 1 + rest.length) =
        data.toList.drop (start + (entry :: rest).length) := by
      rw [List.drop_set_of_lt (by omega), List.length_cons]
      congr 1
      omega
    rw [overwrite, ih _ _ (by simp only [List.length_cons] at inside; omega),
      Vector.toList_setIfInBounds, before, behind]
    simp only [List.append_assoc, List.cons_append, List.nil_append]

/-- A byte as a plain number. -/
def number (byte : UInt8) : Int := byte.toNat

/-- Bytes as plain numbers. -/
def numbers (bytes : List UInt8) : List Int := bytes.map number

lemma number_nonneg (byte : UInt8) : 0 ≤ number byte := Int.natCast_nonneg _

lemma number_lt (byte : UInt8) : number byte < 256 := by
  have := byte.toNat_lt
  unfold number
  omega

/-- A byte made of a number holds the low eight bits of it. -/
lemma number_ofInt (n : Int) : number (UInt8.ofInt n) = n % 256 := by
  unfold number UInt8.ofInt
  rw [UInt8.toNat_ofNat']
  omega

lemma length_numbers (bytes : List UInt8) : (numbers bytes).length = bytes.length :=
  List.length_map _

lemma length_numbers_toList (v : Vector UInt8 size) : (numbers v.toList).length = size := by
  rw [length_numbers, Vector.length_toList]

lemma numbers_mod (bytes : List UInt8) : (numbers bytes).map (· % 256) = numbers bytes := by
  unfold numbers
  rw [List.map_map]
  refine List.map_congr_left fun byte _ => ?_
  exact Int.emod_eq_of_lt (number_nonneg byte) (number_lt byte)

lemma getElem?_numbers {v : Vector UInt8 size} {place : Nat} (inside : place < size) :
    (numbers v.toList)[place]? = some (number v[place]) := by
  have inside' : place < v.toList.length := by rwa [Vector.length_toList]
  rw [numbers, List.getElem?_map, List.getElem?_eq_getElem inside', Vector.getElem_toList]
  rfl

lemma item_numbers {v : Vector UInt8 size} {place : Nat} (inside : place < size) :
    (item (numbers v.toList) place : EStateM Trouble σ Int) = pure (number v[place]) := by
  have inside' : place < (numbers v.toList).length := by
    rwa [length_numbers_toList]
  unfold item
  rw [place?_natCast inside', Option.bind_some, getElem?_numbers inside]

lemma setItem_numbers {v : Vector UInt8 size} {place : Nat} (inside : place < size)
    (byte : UInt8) :
    (setItem (numbers v.toList) place (number byte) : EStateM Trouble σ (List Int)) =
      pure (numbers (v.set place byte).toList) := by
  rw [setItem_natCast (by rwa [length_numbers_toList]), numbers, numbers,
    Vector.toList_set, List.map_set]

lemma setSlice_numbers {v : Vector UInt8 size} {start : Nat} {bytes : List UInt8}
    (inside : start + bytes.length ≤ size) :
    setSlice (numbers v.toList) start (start + bytes.length) (numbers bytes) =
      numbers (overwrite v start bytes).toList := by
  have inside' : start + (numbers bytes).length ≤ (numbers v.toList).length := by
    rwa [length_numbers, length_numbers_toList]
  rw [← length_numbers bytes, setSlice_natCast inside', toList_overwrite v start bytes inside,
    length_numbers]
  simp only [numbers, List.map_append, List.map_take, List.map_drop]

end Chip8.Raw
