/-!
# Similarity of texts

How alike two lists are, measured by what they share in the same order. Their longest common block
is counted first, then, in the same way, what lies before it in both lists and what lies behind it
in both. Of several longest blocks the one that comes first in the first list counts, and of those
the one that comes first in the second.

A block that is found lies within the first list, so that the parts around it are shorter.
-/

namespace Chip8.Similarity

variable {α : Type} [DecidableEq α]

/-- How many entries two lists have in common at their start. -/
def commonStart : List α → List α → Nat
  | a :: as, b :: bs => if a = b then commonStart as bs + 1 else 0
  | _, _ => 0

/-- Equal entries in a row in two lists: where they begin in each, and how many they are. -/
structure Block where
  first : Nat
  second : Nat
  size : Nat
deriving DecidableEq, Repr

namespace Block

/-- The longer of two blocks, the earlier one if neither is longer. -/
def longer (earlier later : Block) : Block :=
  if earlier.size < later.size then later else earlier

/-- The common block that begins at two places and goes on as far as it can. -/
def starting (as bs : List α) (first second : Nat) : Block where
  first
  second
  size := commonStart (as.drop first) (bs.drop second)

/-- All common blocks that cannot be continued, in the order of where they begin. -/
def all (as bs : List α) : List Block :=
  (List.range as.length).flatMap fun first =>
    (List.range bs.length).map fun second => starting as bs first second

/-- The longest common block. -/
def longest (as bs : List α) : Block :=
  (all as bs).foldl longer { first := 0, second := 0, size := 0 }

end Block

/-! ## Blocks lie within the lists -/

theorem commonStart_le (as bs : List α) : commonStart as bs ≤ as.length := by
  induction as generalizing bs with
  | nil => simp [commonStart]
  | cons a as ih =>
    cases bs with
    | nil => simp [commonStart]
    | cons b bs =>
      by_cases h : a = b
      · simpa [commonStart, h] using ih bs
      · simp [commonStart, h]

theorem Block.end_le_of_mem_all {as bs : List α} {block : Block} (h : block ∈ all as bs) :
    block.first + block.size ≤ as.length := by
  simp only [all, List.mem_flatMap, List.mem_range, List.mem_map] at h
  obtain ⟨first, hfirst, second, -, rfl⟩ := h
  have size_le := commonStart_le (as.drop first) (bs.drop second)
  rw [List.length_drop] at size_le
  exact Nat.add_le_of_le_sub' (Nat.le_of_lt hfirst) size_le

theorem Block.foldl_longer_mem (start : Block) (blocks : List Block) :
    blocks.foldl longer start ∈ start :: blocks := by
  induction blocks generalizing start with
  | nil => simp
  | cons block blocks ih =>
    rcases List.mem_cons.1 (ih (longer start block)) with h | h
    · rw [List.foldl_cons, h, longer]
      split <;> simp
    · rw [List.foldl_cons]
      exact List.mem_cons_of_mem _ (List.mem_cons_of_mem _ h)

/-- The longest common block ends within the first list. -/
theorem Block.longest_end_le (as bs : List α) :
    (longest as bs).first + (longest as bs).size ≤ as.length := by
  rcases List.mem_cons.1 (foldl_longer_mem { first := 0, second := 0, size := 0 } (all as bs))
    with h | h
  · rw [longest, h]
    exact Nat.zero_le _
  · exact end_le_of_mem_all h

/-! ## Similarity -/

/-- How many entries two lists share. -/
def shared (as bs : List α) : Nat :=
  match _ : Block.longest as bs with
  | { size := 0, .. } => 0
  | { first, second, size := size + 1 } =>
    shared (as.take first) (bs.take second) + (size + 1) +
      shared (as.drop (first + size + 1)) (bs.drop (second + size + 1))
termination_by as.length
decreasing_by
  all_goals
    next h =>
      have end_le := Block.longest_end_le as bs
      simp only [h] at end_le
      simp only [List.length_take, List.length_drop]
      omega

/-- Whether at least three fifths of two lists are shared. When even the shorter list is too short
for that, nothing has to be counted. -/
def isClose (as bs : List α) : Bool :=
  let enough := 3 * (as.length + bs.length)
  decide (enough ≤ 10 * min as.length bs.length) && decide (enough ≤ 10 * shared as bs)

/-- Whether the part that a first list shares with a text is no smaller than that of a second. -/
def atLeastAsClose (text first second : List α) : Bool :=
  decide (shared second text * (first.length + text.length) ≤
    shared first text * (second.length + text.length))

end Chip8.Similarity

/-- The texts of a list that are close to a given text, in the order of the list. There are at most
`limit` of them: the closest, and of equally close ones those that come later. -/
def Chip8.closest (limit : Nat) (text : String) (texts : List String) : List String :=
  let close := texts.filter fun other => Similarity.isClose other.toList text.toList
  let ranked := close.reverse.mergeSort fun first second =>
    Similarity.atLeastAsClose text.toList first.toList second.toList
  close.filter (ranked.take limit).contains
