import Mathlib.Tactic.Common

/-!
# Chains of checks

A checker that returns early is a chain of `Except` computations. The chain
succeeds exactly when every check in it does.
-/

namespace Checked

universe u

variable {ε : Type u} {α β : Type}

/-- `if !condition { return Err(error) }` -/
def ensure (condition : Prop) [Decidable condition] (error : ε) : Except ε Unit :=
  if condition then .ok () else .error error

@[simp]
theorem ensure_eq_ok_iff {condition : Prop} [Decidable condition] {error : ε} :
    ensure condition error = .ok () ↔ condition := by
  by_cases holds : condition <;> simp [ensure, holds]

theorem bind_eq_ok_iff {first : Except ε α} {rest : α → Except ε β} {result : β} :
    first >>= rest = .ok result ↔ ∃ value, first = .ok value ∧ rest value = .ok result := by
  cases first with
  | error error => simp [bind, Except.bind]
  | ok value => simp [bind, Except.bind]

/-- A check in front of a chain adds its condition. -/
theorem check_bind_eq_ok_iff {first : Except ε Unit} {rest : Unit → Except ε β} {result : β} :
    first >>= rest = .ok result ↔ first = .ok () ∧ rest () = .ok result :=
  bind_eq_ok_iff.trans ⟨fun ⟨(), passed, next⟩ => ⟨passed, next⟩,
    fun ⟨passed, next⟩ => ⟨(), passed, next⟩⟩

/-- A loop that returns early at the first failing item. -/
def forEach (items : List α) (check : α → Except ε Unit) : Except ε Unit :=
  match items with
  | [] => .ok ()
  | item :: items => do
    check item
    forEach items check

@[simp]
theorem forEach_eq_ok_iff {items : List α} {check : α → Except ε Unit} :
    forEach items check = .ok () ↔ ∀ item ∈ items, check item = .ok () := by
  induction items with
  | nil => simp [forEach]
  | cons item items ih => simp [forEach, check_bind_eq_ok_iff, ih]

end Checked
