import Mathlib.Data.Nat.Basic
import Mathlib.Tactic.Common

/-!
# Asking again

A loop asks, and asks again after a pause as long as the response calls for it and pauses
are left. What it ends with is the response to its last attempt, and every attempt before
that one was answered with a call for another.
-/

namespace Retry

variable {α β : Type}

/-- What the loop does, one after the other. -/
inductive Event (β : Type) where
  | ask
  | pause (length : β)
deriving DecidableEq

/-- The loop from an attempt on, with the pauses that are left. -/
def loop (respond : ℕ → α) (again : α → Bool) : List β → ℕ → List (Event β) × α
  | [], attempt => ([.ask], respond attempt)
  | pause :: pauses, attempt =>
    if again (respond attempt) then
      let (events, response) := loop respond again pauses (attempt + 1)
      (.ask :: .pause pause :: events, response)
    else ([.ask], respond attempt)

/-- The events of a loop that ends with its first attempt after these pauses. -/
def events (pauses : List β) : List (Event β) :=
  pauses.flatMap (fun pause => [.ask, .pause pause]) ++ [.ask]

/-- The loop that starts with an attempt settles for the response to another one. -/
structure Settles (respond : ℕ → α) (again : α → Bool) (pauses : List β) (first last : ℕ) :
    Prop where
  first_le : first ≤ last
  last_le : last ≤ first + pauses.length
  earlier : ∀ attempt, first ≤ attempt → attempt < last → again (respond attempt) = true
  final : last < first + pauses.length → again (respond last) = false

theorem settles_nil {respond : ℕ → α} {again : α → Bool} {first : ℕ} :
    Settles respond again ([] : List β) first first where
  first_le := le_rfl
  last_le := le_rfl
  earlier _ least less := absurd least (not_le.mpr less)
  final less := absurd less (lt_irrefl first)

theorem settles_first {respond : ℕ → α} {again : α → Bool} {pauses : List β} {first : ℕ}
    (enough : again (respond first) = false) : Settles respond again pauses first first where
  first_le := le_rfl
  last_le := Nat.le_add_right _ _
  earlier _ least less := absurd least (not_le.mpr less)
  final _ := enough

theorem Settles.cons {respond : ℕ → α} {again : α → Bool} {pause : β} {pauses : List β}
    {first last : ℕ} (more : again (respond first) = true)
    (settles : Settles respond again pauses (first + 1) last) :
    Settles respond again (pause :: pauses) first last where
  first_le := Nat.le_of_succ_le settles.first_le
  last_le := by
    have bound := settles.last_le
    simp only [List.length_cons]
    omega
  earlier attempt least less := by
    rcases Nat.eq_or_lt_of_le least with same | later
    · rw [← same]
      exact more
    · exact settles.earlier attempt later less
  final less := by
    apply settles.final
    simp only [List.length_cons] at less
    omega

/-- The loop ends with the response that it settles for, and has made the pauses up to it. -/
theorem exists_settles (respond : ℕ → α) (again : α → Bool) (pauses : List β) (first : ℕ) :
    ∃ last, Settles respond again pauses first last ∧
      loop respond again pauses first = (events (pauses.take (last - first)), respond last) := by
  induction pauses generalizing first with
  | nil => exact ⟨first, settles_nil, by simp [loop, events]⟩
  | cons pause pauses ih =>
      by_cases more : again (respond first) = true
      · rcases ih (first + 1) with ⟨last, settles, ended⟩
        refine ⟨last, settles.cons more, ?_⟩
        have later : last - first = last - (first + 1) + 1 := by
          have least := settles.first_le
          omega
        simp [loop, more, ended, later, events]
      · rw [Bool.not_eq_true] at more
        exact ⟨first, settles_first more, by simp [loop, more, events]⟩

end Retry
