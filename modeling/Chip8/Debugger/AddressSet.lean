/-!
# Sets of addresses

A finite set of the 4096 addresses, kept as the increasing list of its members. Two sets with the
same members are equal. Any integer may be offered as an address; it stands for the address with
the same low twelve bits.
-/

namespace Chip8

/-- A set of addresses. -/
structure AddressSet where
  members : List (Fin 4096)
  increasing : members.Pairwise (· < ·)
deriving DecidableEq

namespace AddressSet

/-- The address that a number stands for. -/
def reduce (number : Int) : Fin 4096 :=
  ⟨(number % 4096).toNat, by omega⟩

/-- The set without members. -/
def empty : AddressSet where
  members := []
  increasing := .nil

/-- Whether an address is a member. -/
def contains (set : AddressSet) (address : Fin 4096) : Bool :=
  set.members.contains address

/-- The number of members. -/
def size (set : AddressSet) : Nat := set.members.length

/-- The member that equals a number, if there is one. -/
def find? (set : AddressSet) (number : Int) : Option (Fin 4096) :=
  set.members.find? fun address => (address.val : Int) = number

/-! ## Adding and removing -/

/-- Puts an address at its place in an increasing list that does not hold it yet. -/
def place (address : Fin 4096) : List (Fin 4096) → List (Fin 4096)
  | [] => [address]
  | first :: rest =>
    if address < first then address :: first :: rest
    else if address = first then first :: rest
    else first :: place address rest

theorem mem_place {address other : Fin 4096} {members : List (Fin 4096)} :
    other ∈ place address members ↔ other = address ∨ other ∈ members := by
  induction members with
  | nil => simp [place]
  | cons first rest ih =>
    rw [place]
    split
    · simp
    · split
      · next same => subst same; simp
      · simp only [List.mem_cons, ih]
        constructor
        · rintro (h | h | h) <;> simp [h]
        · rintro (h | h | h) <;> simp [h]

theorem pairwise_place {address : Fin 4096} {members : List (Fin 4096)}
    (increasing : members.Pairwise (· < ·)) : (place address members).Pairwise (· < ·) := by
  induction members with
  | nil => simp [place]
  | cons first rest ih =>
    obtain ⟨below, tail⟩ := List.pairwise_cons.1 increasing
    rw [place]
    split
    · next h =>
      refine List.pairwise_cons.2 ⟨fun other mem => ?_, increasing⟩
      rcases List.mem_cons.1 mem with rfl | mem
      · exact h
      · exact Nat.lt_trans h (below other mem)
    · split
      · exact increasing
      · next notBelow different =>
        refine List.pairwise_cons.2 ⟨fun other mem => ?_, ih tail⟩
        rcases mem_place.1 mem with rfl | mem
        · omega
        · exact below other mem

/-- Adds an address. -/
def insert (set : AddressSet) (address : Fin 4096) : AddressSet where
  members := place address set.members
  increasing := pairwise_place set.increasing

/-- Removes an address. -/
def erase (set : AddressSet) (address : Fin 4096) : AddressSet where
  members := set.members.filter (· ≠ address)
  increasing := set.increasing.filter _

/-! ## Membership -/

theorem contains_insert (set : AddressSet) (address other : Fin 4096) :
    (set.insert address).contains other = (other == address || set.contains other) := by
  rw [Bool.eq_iff_iff]
  simp [contains, insert, mem_place]

end AddressSet

end Chip8
