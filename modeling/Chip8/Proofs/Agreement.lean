import Chip8.Proofs.Responses

/-!
# Programs that agree

`Agree` says of two programs that ended that they ended alike: with the same result or the same error,
and in states that are related. It is closed under sequencing, so that two runs of one program from
related states are compared part by part.
-/

namespace Chip8

variable {ε ε' σ α β : Type} {related : σ → σ → Prop}

/-- Both programs gave the same result or the same error, and left related states. -/
inductive Agree (related : σ → σ → Prop) :
    EStateM.Result ε σ α → EStateM.Result ε σ α → Prop
  | ok (a : α) {left right : σ} (relates : related left right) :
    Agree related (.ok a left) (.ok a right)
  | error (e : ε) {left right : σ} (relates : related left right) :
    Agree related (.error e left) (.error e right)

section
variable {left right : EStateM.Result ε σ α} (agree : Agree related left right)
include agree

lemma Agree.mono {weaker : σ → σ → Prop} (weakens : ∀ s t, related s t → weaker s t) :
    Agree weaker left right := by
  cases agree with
  | ok a relates => exact .ok a (weakens _ _ relates)
  | error e relates => exact .error e (weakens _ _ relates)

lemma Agree.leaves : related (leaves left) (leaves right) := by
  cases agree with
  | ok a relates => exact relates
  | error e relates => exact relates

lemma Agree.outcome_eq : outcome left = outcome right := by
  cases agree <;> rfl

end

section
variable {first second : EStateM ε σ α} {s t : σ} (agree : Agree related (first s) (second t))
include agree

lemma Agree.bind {next : α → EStateM ε σ β}
    (rest : ∀ a s' t', related s' t' → Agree related (next a s') (next a t')) :
    Agree related ((first >>= next) s) ((second >>= next) t) := by
  rw [run_bind, run_bind]
  generalize first s = left at agree
  generalize second t = right at agree
  cases agree with
  | ok a relates => exact rest a _ _ relates
  | error e relates => exact .error e relates

lemma Agree.map (f : α → β) : Agree related ((f <$> first) s) ((f <$> second) t) := by
  rw [run_map, run_map]
  generalize first s = left at agree
  generalize second t = right at agree
  cases agree with
  | ok a relates => exact .ok (f a) relates
  | error e relates => exact .error e relates

lemma Agree.adaptExcept (f : ε → ε') :
    Agree related ((first.adaptExcept f) s) ((second.adaptExcept f) t) := by
  rw [run_adaptExcept, run_adaptExcept]
  generalize first s = left at agree
  generalize second t = right at agree
  cases agree with
  | ok a relates => exact .ok a relates
  | error e relates => exact .error (f e) relates

end

end Chip8
