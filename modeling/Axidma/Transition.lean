import Mathlib.Logic.Basic

namespace Transition

variable {σ α ν : Type}

-- Finite runs of a labelled transition relation, with the labels they took.
inductive Runs (step : σ → α → σ → Prop) (origin : σ) : List α → σ → Prop where
  | start : Runs step origin [] origin
  | snoc {done : List α} {before after : σ} {action : α} : Runs step origin done before →
      step before action after → Runs step origin (done++[action]) after

def Restrict (meets : σ → α → Prop) (step : σ → α → σ → Prop) : σ → α → σ → Prop :=
  fun before action after => meets before action ∧ step before action after

section
variable {step step' : σ → α → σ → Prop} {origin final : σ} {actions : List α}

theorem Runs.widen (path : Runs step origin actions final)
    (wider : ∀ before action after, step before action after → step' before action after) :
    Runs step' origin actions final := by
  induction path with
  | start => exact .start
  | snoc _ taken ih => exact .snoc ih (wider _ _ _ taken)

theorem Runs.keeps {invariant : σ → Prop} (path : Runs step origin actions final)
    (holds : invariant origin)
    (kept : ∀ before action after, invariant before → step before action after → invariant after) :
    invariant final := by
  induction path with
  | start => exact holds
  | snoc _ taken ih => exact kept _ _ _ ih taken

theorem Runs.meeting {meets : σ → α → Prop} {middle : σ} {action : α} (path : Runs (Restrict meets step) origin actions middle)
    (taken : step middle action final) (met : meets middle action) : Runs (Restrict meets step) origin (actions++[action]) final :=
  path.snoc ⟨met,taken⟩

end

-- A view that only some actions move, each by an amount that the view and the
-- action fix, is determined by those actions: the two-run separation rule.
theorem Runs.view {step : σ → α → σ → Prop} {invariant : σ → Prop} {view : σ → ν} {mine : α → Bool}
    {move : ν → α → ν} {origin final : σ} {actions : List α} (path : Runs step origin actions final)
    (holds : invariant origin)
    (kept : ∀ before action after, invariant before → step before action after → invariant after)
    (own : ∀ before action after, invariant before → step before action after → mine action = true →
      view after = move (view before) action)
    (other : ∀ before action after, invariant before → step before action after →
      mine action = false → view after = view before) :
    view final = (actions.filter mine).foldl move (view origin) := by
  induction path with
  | start => rfl
  | @snoc done before after action prior taken ih =>
    have reached := prior.keeps holds kept
    cases same : mine action with
    | true => rw [own _ _ _ reached taken same,ih]; simp [List.filter_append,same]
    | false => rw [other _ _ _ reached taken same,ih]; simp [List.filter_append,same]

end Transition
