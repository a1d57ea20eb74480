import MealVendor.Lib.Transition
import Mathlib.Order.WellFounded
import Mathlib.Tactic.Push

/-!
# What a machine gets done

Rules that turn a measure into progress.  `reaches` is about what is possible: where some step
lowers the measure as long as the goal is not reached, a run can be continued to the goal.
`Execution.eventually` is about what must happen: an infinite run in which the measure falls
again and again, as long as the goal is not reached, reaches it.
-/

namespace MealVendor.Lib

variable {σ ε : Type*} {step : σ → ε → Option σ}

/-- While the goal is not reached some step lowers the measure: then a run can be continued
until it is. -/
theorem reaches {I P : σ → Prop} (μ : σ → ℕ)
    (hstep : ∀ s e t, I s → step s e = some t → I t)
    (hlower : ∀ s, I s → ¬ P s → ∃ e t, step s e = some t ∧ μ t < μ s) {s : σ} (hs : I s) :
    ∃ es t, Runs step anyEvent s es t ∧ P t := by
  induction hn : μ s using Nat.strongRecOn generalizing s with
  | ind n ih =>
    subst hn
    by_cases hP : P s
    · exact ⟨[], s, .nil s, hP⟩
    · obtain ⟨e, t, ht, hlt⟩ := hlower s hs hP
      obtain ⟨es, u, hr, hu⟩ := ih (μ t) hlt (hstep s e t hs ht) rfl
      exact ⟨e :: es, u, .cons trivial ht hr, hu⟩

/-- An infinite run: its states and its events. -/
structure Execution (step : σ → ε → Option σ) where
  state : ℕ → σ
  event : ℕ → ε
  next (n : ℕ) : step (state n) (event n) = some (state (n + 1))

namespace Execution

variable (x : Execution step)

/-- The states up to a time are those of a run. -/
lemma runs (n : ℕ) : ∃ es, Runs step anyEvent (x.state 0) es (x.state n) := by
  induction n with
  | zero => exact ⟨[], .nil _⟩
  | succ n ih =>
    obtain ⟨es, hr⟩ := ih
    exact ⟨es ++ [x.event n], hr.append (.cons trivial (x.next n) (.nil _))⟩

/-- While the goal is not reached the measure falls at some time: then the goal is reached. -/
theorem eventually {P : σ → Prop} (μ : σ → ℕ)
    (hfall : ∀ n, ¬ P (x.state n) → ∃ m, μ (x.state m) < μ (x.state n)) :
    ∃ n, P (x.state n) := by
  -- where the measure is least it cannot fall any more
  obtain ⟨n, hmin⟩ : ∃ n, ∀ m, μ (x.state n) ≤ μ (x.state m) :=
    ⟨Function.argmin fun n => μ (x.state n), fun m => Function.argmin_le (fun n => μ (x.state n)) m⟩
  by_contra hP
  push Not at hP
  obtain ⟨m, hlt⟩ := hfall n (hP n)
  exact absurd (hmin m) hlt.not_ge

end Execution

end MealVendor.Lib
