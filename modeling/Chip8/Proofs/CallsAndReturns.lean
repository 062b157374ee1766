import Chip8.Proofs.Frames

/-!
# Calls and returns match

The addresses in use on the call stack change in two ways only: a call adds the address behind
itself, and a return takes the newest address off and jumps to it (`live_of_turn`). So a return that
brings the stack back to the depth of a call is the return of that call. Whatever runs in between,
however deep it calls, the caller's part of the stack lies below and is not touched
(`live_prefix_of_deeper`).
-/

namespace Chip8.Machine

variable {machine after : Machine}

/-- The addresses in use on the call stack, the oldest first. -/
def live (machine : Machine) : List Nat := machine.processor.stack.live

/-- The number of addresses in use on the call stack. -/
def depth (machine : Machine) : Nat := machine.processor.stack.depth

lemma length_live (machine : Machine) : machine.live.length = machine.depth :=
  machine.processor.stack.length_live

/-! ## Instructions -/

/-- A call adds the address behind itself. -/
lemma perform_call {target : Target} (performed : perform (.call target) machine = .ok () after) :
    after.live = machine.live ++ [machine.processor.pc.toNat + 2] ∧
      after.processor.pc.toNat = target := by
  rw [perform, run_bind, run_get] at performed
  dsimp only at performed
  rw [run_bind, run_push] at performed
  cases pushed : machine.processor.stack.push? (machine.processor.pc.toNat + 2) with
  | none =>
    rw [pushed] at performed
    cases performed
  | some stack =>
    rw [pushed] at performed
    cases performed
    have small := target.isLt
    refine ⟨CallStack.live_push? pushed, ?_⟩
    show (UInt16.ofNat target).toNat = target
    rw [UInt16.toNat_ofNat']
    omega

/-- A return takes the newest address off and jumps to it. -/
lemma perform_ret (performed : perform .ret machine = .ok () after) :
    ∃ newest, machine.live = after.live ++ [newest] ∧
      after.processor.pc = UInt16.ofNat newest := by
  rw [perform, run_bind, run_pop] at performed
  cases popped : machine.processor.stack.pop? with
  | none =>
    rw [popped] at performed
    cases performed
  | some top =>
    obtain ⟨newest, stack⟩ := top
    rw [popped] at performed
    cases performed
    exact ⟨newest, CallStack.live_pop? popped, rfl⟩

/-! ## Cycles -/

lemma Executes.live_call {target : Target} (calls : machine.Executes (.call target) after) :
    after.live = machine.live ++ [machine.processor.pc.toNat + 2] ∧
      after.processor.pc.toNat = target := by
  obtain ⟨between, performed, rfl⟩ := calls.performed
  obtain ⟨grown, jumped⟩ := perform_call performed
  exact ⟨grown, jumped⟩

lemma Executes.live_ret (returns : machine.Executes .ret after) :
    ∃ newest, machine.live = after.live ++ [newest] ∧
      after.processor.pc = UInt16.ofNat newest := by
  obtain ⟨between, performed, rfl⟩ := returns.performed
  obtain ⟨newest, shrunk, jumped⟩ := perform_ret performed
  exact ⟨newest, shrunk, jumped⟩

lemma Executes.live_other {instruction : Instruction}
    (executed : machine.Executes instruction after)
    (noCall : ∀ target, instruction ≠ .call target) (noReturn : instruction ≠ .ret) :
    after.live = machine.live := by
  obtain ⟨between, within, rfl⟩ := executed.footprint
  exact congrArg CallStack.live (within.stack noCall noReturn)

/-- What a cycle does to the addresses in use. -/
lemma live_of_cycle (machine : Machine) :
    (∃ target, machine.Executes (.call target) (leaves machine.cycle)) ∨
      machine.Executes .ret (leaves machine.cycle) ∨
      (leaves machine.cycle).live = machine.live := by
  rcases machine.cycle_cases with ⟨fault, cycled⟩ | ⟨-, polled, polls, cycled⟩ |
    ⟨instruction, after, executed, cycled⟩
  · right; right
    rw [cycled]
    rfl
  · -- Polling the keypad may end a wait, but never touches the stack.
    right; right
    have within := footprint_pollKey .first machine
    rw [polls] at within
    rw [cycled]
    exact congrArg CallStack.live (within.stack nofun nofun)
  · have left : leaves machine.cycle = after := by rw [cycled]; rfl
    rw [left]
    by_cases calls : ∃ target, instruction = .call target
    · obtain ⟨target, rfl⟩ := calls
      exact .inl ⟨target, executed⟩
    · by_cases returns : instruction = .ret
      · subst returns
        exact .inr (.inl executed)
      · refine .inr (.inr (executed.live_other (fun target same => ?_) returns))
        exact calls ⟨target, same⟩

/-! ## Runs -/

/-- What can happen to a machine that is run while the host leaves its call stack alone. -/
inductive Turn : Machine → Machine → Prop
  /-- A cycle, which completes or faults. -/
  | cycle (machine : Machine) : Turn machine (leaves machine.cycle)
  /-- A cycle that a gate may refuse. -/
  | cycleGated {σ : Type} (gate : Gate σ) (machine : Machine) (records : σ) :
    Turn machine (leaves (cycleGated gate (machine, records))).1
  /-- The host sets keys, writes memory or changes anything else. -/
  | host {machine after : Machine} (kept : after.processor.stack = machine.processor.stack) :
    Turn machine after

/-- Whatever happens, the addresses in use change by a call or a return only. -/
lemma live_of_turn (turn : Turn machine after) :
    (∃ target, machine.Executes (.call target) after) ∨ machine.Executes .ret after ∨
      after.live = machine.live := by
  cases turn with
  | cycle => exact live_of_cycle machine
  | cycleGated gate _ records =>
    rw [machine_cycleGated]
    split
    · exact live_of_cycle machine
    · exact .inr (.inr rfl)
  | host kept =>
    right; right
    unfold live
    rw [kept]

section
variable {states : Nat → Machine} {target : Target} {i j : Nat}

/-- From a call on, as long as the stack has not come back to the depth it had there, the caller's
part of the stack and the return address stay at the bottom. -/
lemma live_prefix_of_deeper (calls : (states i).Executes (.call target) (states (i + 1)))
    (later : i < j) (turns : ∀ n, i ≤ n → n < j → Turn (states n) (states (n + 1)))
    (deeper : ∀ n, i < n → n ≤ j → (states n).depth ≠ (states i).depth) :
    (states i).live ++ [(states i).processor.pc.toNat + 2] <+: (states j).live := by
  -- By induction on what happens after the call.
  induction j, later using Nat.le_induction with
  | base =>
    rw [calls.live_call.1]
  | succ j later ih =>
    have below := ih (fun n low high => turns n low (by omega))
      (fun n low high => deeper n low (by omega))
    rcases live_of_turn (turns j (by omega) (by omega)) with ⟨target', nested⟩ | returns | same
    · rw [nested.live_call.1]
      exact below.trans (List.prefix_append _ _)
    · obtain ⟨newest, shrunk, -⟩ := returns.live_ret
      rw [shrunk, List.prefix_concat_iff] at below
      rcases below with whole | below
      · -- The return would take the return address of the call itself.
        have same : (states i).live = (states (j + 1)).live := (List.append_inj' whole rfl).1
        refine absurd ?_ (deeper (j + 1) (by omega) (by omega))
        rw [← length_live, ← length_live, same]
      · exact below
    · rw [same]
      exact below

/-- The return that brings the stack back to the depth of a call is the return of that call. -/
lemma returns_of_call (calls : (states i).Executes (.call target) (states (i + 1)))
    (later : i < j) (turns : ∀ n, i ≤ n → n ≤ j → Turn (states n) (states (n + 1)))
    (deeper : ∀ n, i < n → n ≤ j → (states n).depth ≠ (states i).depth)
    (back : (states (j + 1)).depth = (states i).depth) :
    (states j).Executes .ret (states (j + 1)) ∧
      (states (j + 1)).processor.pc.toNat = (states i).processor.pc.toNat + 2 ∧
      (states (j + 1)).live = (states i).live := by
  have below := live_prefix_of_deeper calls later
    (fun n low high => turns n low (by omega)) deeper
  have longer := below.length_le
  rw [← length_live, ← length_live] at back
  rw [List.length_append, List.length_singleton] at longer
  rcases live_of_turn (turns j (by omega) (by omega)) with ⟨target', nested⟩ | returns | same
  · rw [nested.live_call.1, List.length_append, List.length_singleton] at back
    omega
  · obtain ⟨newest, shrunk, jumped⟩ := returns.live_ret
    rw [shrunk, List.prefix_concat_iff] at below
    rcases below with whole | tooLong
    · obtain ⟨same, top⟩ := List.append_inj' whole rfl
      obtain rfl := List.singleton_inj.1 top
      refine ⟨returns, ?_, same.symm⟩
      have inside := calls.pc_le
      rw [jumped, UInt16.toNat_ofNat']
      omega
    · have := tooLong.length_le
      rw [List.length_append, List.length_singleton] at this
      omega
  · rw [same] at back
    omega

end

/-! ## The theorem -/

/-- Calls and returns match. Along every run the addresses in use change only when a call is
executed, which adds the address behind it and jumps to its target, and when a return is executed,
which takes the newest one off and jumps to it. When a call has been executed and the stack is for
the first time back at the depth it had there, then by a return, which continues behind the call
and leaves the stack as it was there. -/
theorem calls_match_returns :
    (∀ machine after : Machine, Turn machine after →
      after.live = machine.live ∨
      (∃ target, machine.Executes (.call target) after ∧
        after.live = machine.live ++ [machine.processor.pc.toNat + 2] ∧
        after.processor.pc.toNat = target) ∨
      machine.Executes .ret after ∧ ∃ newest, machine.live = after.live ++ [newest] ∧
        after.processor.pc = UInt16.ofNat newest) ∧
    (∀ (machine after : Machine) (target : Target), machine.Executes (.call target) after →
      after.live = machine.live ++ [machine.processor.pc.toNat + 2]) ∧
    (∀ machine after : Machine, machine.Executes .ret after → ∃ newest,
      machine.live = after.live ++ [newest] ∧ after.processor.pc = UInt16.ofNat newest) ∧
    (∀ (states : Nat → Machine) (target : Target) (i j : Nat), i < j →
      (∀ n, i ≤ n → n ≤ j → Turn (states n) (states (n + 1))) →
      (states i).Executes (.call target) (states (i + 1)) →
      (∀ n, i < n → n ≤ j → (states n).depth ≠ (states i).depth) →
      (states (j + 1)).depth = (states i).depth →
        (states j).Executes .ret (states (j + 1)) ∧
          (states (j + 1)).processor.pc.toNat = (states i).processor.pc.toNat + 2 ∧
          (states (j + 1)).live = (states i).live) := by
  refine ⟨?_, ?_, ?_, ?_⟩
  · intro machine after turn
    rcases live_of_turn turn with ⟨target, calls⟩ | returns | same
    · exact .inr (.inl ⟨target, calls, calls.live_call⟩)
    · exact .inr (.inr ⟨returns, returns.live_ret⟩)
    · exact .inl same
  · intro machine after target calls
    exact calls.live_call.1
  · intro machine after returns
    exact returns.live_ret
  · intro states target i j later turns calls deeper back
    exact returns_of_call calls later turns deeper back

/-- A program that calls a routine at `0x204`, which calls one at `0x208` that returns at once. -/
def callingRom : Rom where
  bytes := [0x22, 0x04, 0x12, 0x02, 0x22, 0x08, 0x00, 0xEE, 0x00, 0xEE]
  fits := by decide

/-- The machine after a number of cycles of the calling program. -/
def calling : Nat → Machine
  | 0 => .powerOn callingRom (.ofStream fun _ => 0) false
  | count + 1 => leaves (calling count).cycle

-- The machine after a few cycles is a deep term.
set_option maxRecDepth 2000 in
theorem calls_match_returns_nested :
    (calling 0).Executes (.call 0x204) (calling 1) ∧ (calling 2).live = [0x202, 0x206] ∧
      (calling 3).Executes .ret (calling 4) ∧ (calling 4).processor.pc.toNat = 0x202 ∧
      (calling 4).live = [] := by
  have upcoming : (calling 0).upcoming? = some 0x2204 := by decide +kernel
  have calls : (calling 0).Executes (.call 0x204) (calling 1) :=
    executes_of_upcoming upcoming (by decide) rfl
  have deeper (n : Nat) (low : 0 < n) (high : n ≤ 3) : (calling n).depth ≠ (calling 0).depth := by
    interval_cases n <;> decide +kernel
  have back : (calling 4).depth = (calling 0).depth := by decide +kernel
  obtain ⟨-, -, -, matched⟩ := calls_match_returns
  obtain ⟨returns, jumped, same⟩ := matched calling 0x204 0 3 (by omega)
    (fun n _ _ => .cycle (calling n)) calls deeper back
  have begins : (calling 0).processor.pc.toNat = 0x200 := by decide
  simp only [begins, Nat.reduceAdd] at jumped
  exact ⟨calls, by decide +kernel, returns, jumped, same⟩

end Chip8.Machine
