/-!
# Runs

A sequence in which entries often repeat, kept as its runs: how many times in a row an entry
comes, and the entry. `expand` is the sequence itself; `ofList` finds its runs, so that no run is
empty and neighbouring runs hold different entries.
-/

namespace Chip8

/-- A sequence as runs of equal entries. -/
abbrev Runs (α : Type) := List (Nat × α)

namespace Runs

variable {α β : Type}

/-- The sequence that the runs stand for. -/
def expand (runs : Runs α) : List α :=
  runs.flatMap fun (count, entry) => List.replicate count entry

/-- Puts one entry in front, lengthening the first run if it holds the same entry. -/
def cons [DecidableEq α] (entry : α) : Runs α → Runs α
  | [] => [(1, entry)]
  | (count, other) :: rest =>
    if entry = other then (count + 1, other) :: rest else (1, entry) :: (count, other) :: rest

/-- The runs of a sequence. -/
def ofList [DecidableEq α] (entries : List α) : Runs α :=
  entries.foldr cons []

/-- Repeats every entry `factor` times. -/
def stretch (factor : Nat) (runs : Runs α) : Runs α :=
  runs.map fun (count, entry) => (count * factor, entry)

/-- Replaces every entry. Neighbouring runs stay apart, so `f` should tell entries apart. -/
def mapEntries (f : α → β) (runs : Runs α) : Runs β :=
  runs.map fun (count, entry) => (count, f entry)

/-- The length of the sequence. -/
def size (runs : Runs α) : Nat :=
  runs.foldr (fun run total => run.1 + total) 0

/-! ## Expansion -/

theorem expand_cons [DecidableEq α] (entry : α) (runs : Runs α) :
    expand (cons entry runs) = entry :: expand runs := by
  match runs with
  | [] => rfl
  | (count, other) :: rest =>
    by_cases h : entry = other
    · simp [cons, expand, h, List.replicate_succ]
    · simp [cons, expand, h]

/-- The runs of a sequence stand for that sequence. -/
theorem expand_ofList [DecidableEq α] (entries : List α) : expand (ofList entries) = entries := by
  induction entries with
  | nil => rfl
  | cons entry rest ih => rw [ofList, List.foldr_cons, expand_cons, ← ofList, ih]

theorem length_expand (runs : Runs α) : (expand runs).length = size runs := by
  induction runs with
  | nil => rfl
  | cons run rest ih =>
    rw [expand, List.flatMap_cons, List.length_append, List.length_replicate, ← expand, ih]
    rfl

end Runs

end Chip8
