import Mathlib.Algebra.BigOperators.Group.Finset.Piecewise
import Mathlib.Tactic.Common

/-!
# Passing a baton

Several parties send messages to each other over FIFO queues. One of them holds a
baton: it alone sends, and some of its messages hand the baton over to the reader.
So the baton is there exactly once, with a party or in a message on its way, and the
parties never all wait for messages that nobody is left to send.
-/

namespace Baton

variable {ι μ : Type} (handsOver : μ → Bool)

/-- Whether a party holds the baton, as far as it knows from what it has sent and received. -/
inductive Turn where
  | mine
  | theirs
deriving DecidableEq

namespace Turn

/-- After the holder has sent a message. -/
def sent (message : μ) : Turn := if handsOver message then theirs else mine

/-- After another party has received a message. -/
def received (message : μ) : Turn := if handsOver message then mine else theirs

/-- How many batons a party holds. -/
def batons : Turn → ℕ
  | mine => 1
  | theirs => 0

theorem batons_sent (message : μ) :
    (sent handsOver message).batons + (if handsOver message then 1 else 0) = 1 := by
  cases handed : handsOver message <;> simp [sent, handed, batons]

theorem batons_received (message : μ) :
    (received handsOver message).batons = if handsOver message then 1 else 0 := by
  cases handed : handsOver message <;> simp [received, handed, batons]

end Turn

variable [Fintype ι]

/-- There is one baton. The queues are those that the parties read from. -/
def Unique (turn : ι → Turn) (queue : ι → List μ) : Prop :=
  ∑ party, (turn party).batons + ∑ party, (queue party).countP handsOver = 1

variable [DecidableEq ι]

theorem sum_update {β : Type} (measure : β → ℕ) (value : ι → β) (party : ι) (changed : β) :
    ∑ one, measure (Function.update value party changed one) + measure (value party) =
      ∑ one, measure (value one) + measure changed := by
  have others : ∑ one ∈ Finset.univ.erase party,
      measure (Function.update value party changed one) =
        ∑ one ∈ Finset.univ.erase party, measure (value one) := by
    apply Finset.sum_congr rfl
    intro one member
    rw [Function.update_of_ne (Finset.ne_of_mem_erase member)]
  rw [← Finset.add_sum_erase _ _ (Finset.mem_univ party),
    ← Finset.add_sum_erase _ (fun one => measure (value one)) (Finset.mem_univ party),
    Function.update_self, others]
  omega

variable {handsOver} {turn : ι → Turn} {queue : ι → List μ} {party reader : ι} {message : μ}
  {rest : List μ}

/-- The holder sends. -/
theorem Unique.sent (unique : Unique handsOver turn queue) (holds : turn party = .mine) :
    Unique handsOver (Function.update turn party (.sent handsOver message))
      (Function.update queue reader (queue reader ++ [message])) := by
  have turns := sum_update Turn.batons turn party (.sent handsOver message)
  have queues := sum_update (List.countP handsOver) queue reader (queue reader ++ [message])
  have once := Turn.batons_sent handsOver message
  rw [List.countP_append, List.countP_singleton] at queues
  rw [holds, Turn.batons] at turns
  unfold Unique at unique ⊢
  omega

/-- A party that does not hold the baton receives. -/
theorem Unique.received (unique : Unique handsOver turn queue) (waits : turn party = .theirs)
    (queued : queue party = message :: rest) :
    Unique handsOver (Function.update turn party (.received handsOver message))
      (Function.update queue party rest) := by
  have turns := sum_update Turn.batons turn party (.received handsOver message)
  have queues := sum_update (List.countP handsOver) queue party rest
  have handed := Turn.batons_received handsOver message
  rw [queued, List.countP_cons] at queues
  rw [waits, Turn.batons] at turns
  unfold Unique at unique ⊢
  omega

/-- One party holds the baton, and nothing is on its way. -/
theorem Unique.start (holder : ι) : Unique handsOver
    (fun party => if party = holder then .mine else .theirs) (fun _ => []) := by
  have batons : ∀ party, Turn.batons (if party = holder then .mine else .theirs) =
      if party = holder then 1 else 0 := by
    intro party
    split_ifs <;> rfl
  simp [Unique, batons]

omit [DecidableEq ι] in
/-- Somebody holds the baton, or there is a message on its way. -/
theorem Unique.not_all_wait (unique : Unique handsOver turn queue)
    (wait : ∀ party, turn party = .theirs) (empty : ∀ party, queue party = []) : False := by
  simp [Unique, wait, empty, Turn.batons] at unique

end Baton
