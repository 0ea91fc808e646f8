/-!
# Outcomes of computations with a state

Readers of tokens and executions of statements are computations that change a
state and may stop.  The lemmas here say how two of them in a row end, so that
a proof can take a computation apart without unfolding how it is run.
-/

namespace TinyImp.Computation

variable {ε σ α β : Type} {first : EStateM ε σ α} {next : α → EStateM ε σ β}
  {start middle final : σ}

theorem bind_of_ok {value : α} (success : first start = .ok value middle) :
    (first >>= next) start = next value middle := by
  simp only [bind, EStateM.bind, success]

theorem bind_of_error {error : ε} (failed : first start = .error error middle) :
    (first >>= next) start = .error error middle := by
  simp only [bind, EStateM.bind, failed]

theorem bind_congr_first {other : EStateM ε σ α}
    (agree : first start = other start) :
    (first >>= next) start = (other >>= next) start := by
  simp only [bind, EStateM.bind, agree]

/-- How a computation goes on matters only where it goes on. -/
theorem bind_congr {other : α → EStateM ε σ β}
    (agree : ∀ value middle, first start = .ok value middle →
      next value middle = other value middle) :
    (first >>= next) start = (first >>= other) start := by
  cases outcome : first start with
  | ok value middle =>
      rw [bind_of_ok outcome, bind_of_ok outcome]
      exact agree value middle outcome
  | error error middle =>
      rw [bind_of_error outcome, bind_of_error outcome]

theorem bind_eq_error_iff {error : ε} :
    (first >>= next) start = .error error final ↔
      first start = .error error final ∨
        ∃ value middle, first start = .ok value middle ∧
          next value middle = .error error final := by
  constructor
  · intro failed
    cases outcome : first start with
    | ok value middle =>
        rw [bind_of_ok outcome] at failed
        exact .inr ⟨value, middle, rfl, failed⟩
    | error early middle =>
        rw [bind_of_error outcome] at failed
        cases failed
        exact .inl rfl
  · intro given
    rcases given with failed | ⟨value, middle, early, late⟩
    · exact bind_of_error failed
    · rw [bind_of_ok early, late]

end TinyImp.Computation
