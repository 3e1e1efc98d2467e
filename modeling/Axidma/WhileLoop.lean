import Mathlib.Logic.Function.Iterate

namespace WhileLoop

variable {σ : Type} {going : σ → Bool} {body : σ → σ} {start s : σ}

-- while (going) body: the states in which the condition is looked at.
inductive Visits (going : σ → Bool) (body : σ → σ) (start : σ) : σ → Prop where
  | start : Visits going body start start
  | again {s : σ} (earlier : Visits going body start s) (again : going s = true) : Visits going body start (body s)

def Ends (going : σ → Bool) (body : σ → σ) (start : σ) : Prop := ∃ s, Visits going body start s ∧ going s = false

theorem Visits.keeps {invariant : σ → Prop} (visits : Visits going body start s) (holds : invariant start)
    (kept : ∀ s, invariant s → going s = true → invariant (body s)) : invariant s := by
  induction visits with
  | start => exact holds
  | again _ again ih => exact kept _ ih again

theorem Visits.trans {middle : σ} (first : Visits going body start middle) (second : Visits going body middle s) :
    Visits going body start s := by
  induction second with
  | start => exact first
  | again _ again ih => exact ih.again again

theorem visits_iterate {passes : Nat} (again : ∀ n, n < passes → going (body^[n] start) = true) :
    Visits going body start (body^[passes] start) := by
  induction passes with
  | zero => exact .start
  | succ passes ih =>
    rw [Function.iterate_succ_apply']
    exact (ih fun n below => again n (Nat.lt_succ_of_lt below)).again (again passes (Nat.lt_succ_self passes))

-- The rule for total correctness: a measure that every pass makes smaller.
theorem ends_of_decreasing {invariant : σ → Prop} (measure : σ → Nat) (holds : invariant start)
    (kept : ∀ s, invariant s → going s = true → invariant (body s))
    (less : ∀ s, invariant s → going s = true → measure (body s) < measure s) : Ends going body start := by
  generalize size : measure start = n
  induction n using Nat.strongRecOn generalizing start with
  | ind n ih =>
    cases again : going start with
    | false => exact ⟨start,.start,again⟩
    | true =>
      have smaller : measure (body start) < n := size ▸ less start holds again
      obtain ⟨last,visits,done⟩ := ih _ smaller (kept start holds again) rfl
      have once : Visits going body start (body start) := Visits.start.again again
      exact ⟨last,once.trans visits,done⟩

theorem never_ends {invariant : σ → Prop} (holds : invariant start)
    (again : ∀ s, invariant s → going s = true) (kept : ∀ s, invariant s → invariant (body s)) : ¬ Ends going body start := by
  intro ends
  obtain ⟨last,visits,done⟩ := ends
  have reached : invariant last := visits.keeps holds fun s holds _ => kept s holds
  rw [again last reached] at done
  cases done

end WhileLoop
