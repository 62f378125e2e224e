import Colloq.Library.Program
import Colloq.Library.TurnTaking

/-!
# Networks that end

What holds in every reachable network because of where all interleavings end: a
party that is done stays done, and a call that is left in the end by its party has
been answered.
-/

namespace Program

variable {ι ε Op : Type} {Answer : Op → Type} {α : Type}

/-- The environment answers no other operations than the allowed ones. -/
def guarded (answers : Environment ι ε Op Answer) (allowed : Op → Prop) :
    Environment ι ε Op Answer :=
  fun before party op answer after => answers before party op answer after ∧ allowed op

theorem Commutes.guarded {answers : Environment ι ε Op Answer} (commutes : Commutes answers)
    (allowed : Op → Prop) : Commutes (guarded answers allowed) where
  deterministic := by
    intro before first second party op left right leftAnswered rightAnswered
    exact commutes.deterministic leftAnswered.1 rightAnswered.1
  commute := by
    intro before first second party other op otherOp answer otherAnswer distinct answered
      otherAnswered
    rcases commutes.commute distinct answered.1 otherAnswered.1 with ⟨after, otherNow, partyNow⟩
    exact ⟨after, ⟨otherNow, otherAnswered.2⟩, ⟨partyNow, answered.2⟩⟩

variable [DecidableEq ι] {answers : Environment ι ε Op Answer}
  {network last : Network ι ε Op Answer α} {party : ι}

theorem done_of_steps {value : α} (done : network.program party = .done value)
    (steps : Relation.ReflTransGen (Step answers) network last) :
    last.program party = .done value := by
  induction steps with
  | refl => exact done
  | tail _ step ih =>
      cases step with
      | @call other op next answer environment calls answered =>
          by_cases same : party = other
          · subst other
            rw [ih] at calls
            cases calls
          · simpa [same] using ih

/-- A party that has moved on has got an answer. -/
theorem exists_answer_of_steps {op : Op} {next : Answer op → Program Op Answer α}
    (calls : network.program party = .call op next)
    (steps : Relation.ReflTransGen (Step answers) network last)
    (moved : last.program party ≠ .call op next) :
    ∃ between answer after, Relation.ReflTransGen (Step answers) network between ∧
      between.program party = .call op next ∧
        answers between.environment party op answer after := by
  induction steps using Relation.ReflTransGen.head_induction_on with
  | refl => exact absurd calls moved
  | @head first second step _ ih =>
      cases step with
      | @call other otherOp otherNext answer environment otherCalls answered =>
          by_cases same : party = other
          · subst other
            rw [calls] at otherCalls
            cases otherCalls
            exact ⟨first, answer, environment, .refl, calls, answered⟩
          · rcases ih (by simpa [same] using calls) with ⟨between, later, after, rest, still, found⟩
            exact ⟨between, later, after, .head (.call otherCalls answered) rest, still, found⟩

/-- A network in which nothing moves is where it goes. -/
theorem eq_of_steps_of_stuck (stuck : network.Stuck answers)
    (steps : Relation.ReflTransGen (Step answers) network last) : network = last := by
  rcases steps.cases_head with same | ⟨next, step, _⟩
  · exact same
  · exact (stuck next step).elim

/-- One party speaks, another one goes along its whole path, and the first one hears it. -/
theorem steps_of_talk {speaker listener : ι} (distinct : speaker ≠ listener)
    {left peerLeft : Program Op Answer α} {speech talk hearing : List (Event Answer)}
    {spoken between after : ε} (path : Path (network.program speaker) (speech ++ hearing) left)
    (peerPath : Path (network.program listener) talk peerLeft)
    (speaks : Answered answers speaker network.environment speech spoken)
    (talks : Answered answers listener spoken talk between)
    (hears : Answered answers speaker between hearing after) :
    Relation.ReflTransGen (Step answers) network
      { environment := after
        program := Function.update (Function.update network.program speaker left) listener
          peerLeft } := by
  rcases path.split with ⟨middle, speaking, listening⟩
  let first : Network ι ε Op Answer α :=
    { environment := spoken, program := Function.update network.program speaker middle }
  let second : Network ι ε Op Answer α :=
    { environment := between, program := Function.update first.program listener peerLeft }
  have one : Relation.ReflTransGen (Step answers) network first :=
    steps_of_path speaker speaking speaks
  have two : Relation.ReflTransGen (Step answers) first second :=
    steps_of_path listener (by simpa [first, distinct.symm] using peerPath) talks
  have three := @steps_of_path _ _ _ _ _ _ answers second speaker left hearing after
    (by simpa [first, second, distinct] using listening) hears
  have same : Function.update second.program speaker left =
      Function.update (Function.update network.program speaker left) listener peerLeft := by
    simp only [first, second]
    rw [Function.update_comm distinct.symm, Function.update_idem]
  rw [same] at three
  exact (one.trans two).trans three

/-! ## Two parties -/

section Sides

open TurnTaking (Side)

variable {answers : Environment Side ε Op Answer} {before after : ε}
  {program left other otherLeft : Program Op Answer α} {events : List (Event Answer)}

theorem steps_left (path : Path program events left)
    (answered : Answered answers .left before events after) :
    Relation.ReflTransGen (Step answers)
      ⟨before, Side.pair program other⟩ ⟨after, Side.pair left other⟩ := by
  rw [← Side.update_pair_left program other left]
  exact steps_of_path Side.left path answered

theorem steps_right (path : Path program events left)
    (answered : Answered answers .right before events after) :
    Relation.ReflTransGen (Step answers)
      ⟨before, Side.pair other program⟩ ⟨after, Side.pair other left⟩ := by
  rw [← Side.update_pair_right other program left]
  exact steps_of_path Side.right path answered

/-- The left party speaks, the right one goes along its path, and the left one hears it. -/
theorem steps_talk {speech hearing talk : List (Event Answer)} {spoken between : ε}
    (path : Path program (speech ++ hearing) left) (otherPath : Path other talk otherLeft)
    (speaks : Answered answers .left before speech spoken)
    (talks : Answered answers .right spoken talk between)
    (hears : Answered answers .left between hearing after) :
    Relation.ReflTransGen (Step answers)
      ⟨before, Side.pair program other⟩ ⟨after, Side.pair left otherLeft⟩ := by
  rcases path.split with ⟨middle, speaking, listening⟩
  exact ((steps_left speaking speaks).trans (steps_right otherPath talks)).trans
    (steps_left listening hears)

end Sides

end Program
