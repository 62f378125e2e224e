import Mathlib.Computability.StateTransition

/-!
# While loops with a variant

A loop body is a function `σ → Option σ` that returns `none` when the loop
exits. A variant bounds the iterations that are left, so the loop can be run by
structural recursion on it. If the body decreases the variant, the result is the
one the unbounded transition system evaluates to, and it satisfies every
invariant of the body.
-/

namespace Loop

universe u

variable {σ : Type u} (body : σ → Option σ) (variant : σ → ℕ)

/-- At most `fuel` iterations of the body. -/
def runFor : ℕ → σ → σ
  | 0, state => state
  | fuel + 1, state =>
    match body state with
    | none => state
    | some next => runFor fuel next

/-- Iterate the body until it exits. -/
def run (state : σ) : σ := runFor body (variant state) state

/-- Every iteration makes the variant smaller. -/
def Decreases : Prop := ∀ state next, body state = some next → variant next < variant state

variable {body variant}

theorem reaches_runFor (fuel : ℕ) (state : σ) :
    StateTransition.Reaches body state (runFor body fuel state) := by
  induction fuel generalizing state with
  | zero => exact .refl
  | succ fuel ih =>
      simp only [runFor]
      split
      · exact .refl
      · rename_i next stepped
        exact .head stepped (ih next)

theorem body_runFor (decreases : Decreases body variant) {fuel : ℕ} {state : σ}
    (enough : variant state ≤ fuel) : body (runFor body fuel state) = none := by
  induction fuel generalizing state with
  | zero =>
      rcases exited : body state with _ | next
      · exact exited
      · have := decreases state next exited
        omega
  | succ fuel ih =>
      simp only [runFor]
      split
      · assumption
      · rename_i next stepped
        have := decreases state next stepped
        exact ih (by omega)

/-- The loop terminates, and `run` is the state in which it exits. -/
theorem run_mem_eval (decreases : Decreases body variant) (state : σ) :
    run body variant state ∈ StateTransition.eval body state :=
  StateTransition.mem_eval.mpr ⟨reaches_runFor _ state, body_runFor decreases le_rfl⟩

theorem body_run (decreases : Decreases body variant) (state : σ) :
    body (run body variant state) = none :=
  (StateTransition.mem_eval.mp (run_mem_eval decreases state)).2

/-- The invariant rule: what the body preserves holds when the loop exits. -/
theorem run_invariant {invariant : σ → Prop}
    (preserved : ∀ state next, invariant state → body state = some next → invariant next)
    {state : σ} (start : invariant state) : invariant (run body variant state) := by
  have reached := @reaches_runFor _ body (variant state) state
  rw [run]
  generalize runFor body (variant state) state = last at reached
  induction reached with
  | refl => exact start
  | tail _ stepped ih => exact preserved _ _ ih stepped

end Loop
