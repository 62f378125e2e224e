import Colloq.Library.Schedule
import Colloq.Library.Stream

/-!
# Connections that only their programs close

On a connection on which nothing is ever lost, all interleavings of two programs end
alike, and each program goes through the same events in all of them. A close loses what
is still on its way. If the events say that a program closes the connection only when it
has read all that its peer will write, and the peer writes last, then a close does no harm.
-/

namespace Program

/-! ## The events of every party -/

section Logged

variable {ι ε Op : Type} {Answer : Op → Type} {α : Type} [DecidableEq ι]
  {answers : Environment ι ε Op Answer}

/-- The environment also keeps what every party was answered. -/
def logged (answers : Environment ι ε Op Answer) :
    Environment ι (ε × (ι → List (Event Answer))) Op Answer :=
  fun before party op answer after => answers before.1 party op answer after.1 ∧
    after.2 = Function.update before.2 party (before.2 party ++ [⟨op, answer⟩])

theorem Commutes.logged (commutes : Commutes answers) : Commutes (logged answers) where
  deterministic := by
    intro before first second party op left right leftAnswered rightAnswered
    rcases commutes.deterministic leftAnswered.1 rightAnswered.1 with ⟨same, sameEnvironment⟩
    subst same
    exact ⟨rfl, Prod.ext sameEnvironment (leftAnswered.2.trans rightAnswered.2.symm)⟩
  commute := by
    intro before first second party other op otherOp answer otherAnswer distinct answered
      otherAnswered
    rcases commutes.commute distinct answered.1 otherAnswered.1 with ⟨after, otherNow, partyNow⟩
    refine ⟨(after, Function.update first.2 other (first.2 other ++ [⟨otherOp, otherAnswer⟩])),
      ⟨otherNow, rfl⟩, partyNow, ?_⟩
    simp only [answered.2, otherAnswered.2]
    rw [Function.update_of_ne distinct.symm, Function.update_of_ne distinct,
      Function.update_comm distinct]

theorem Answered.logged {party : ι} {before after : ε} {events : List (Event Answer)}
    (answered : Answered answers party before events after) (log : ι → List (Event Answer)) :
    Answered (logged answers) party (before, log) events
      (after, Function.update log party (log party ++ events)) := by
  induction answered generalizing log with
  | refl =>
      rw [List.append_nil, Function.update_eq_self]
      exact .refl _
  | @call before between after op answer events first _ ih =>
      have rest := ih (Function.update log party (log party ++ [⟨op, answer⟩]))
      rw [Function.update_self, Function.update_idem, List.append_assoc] at rest
      exact .call ⟨first, rfl⟩ rest

/-- Every run can be logged. -/
theorem exists_logged_steps {network last : Network ι ε Op Answer α}
    (steps : Relation.ReflTransGen (Step answers) network last) (log : ι → List (Event Answer)) :
    ∃ later, Relation.ReflTransGen (Step (logged answers))
      ⟨(network.environment, log), network.program⟩ ⟨(last.environment, later), last.program⟩ := by
  induction steps with
  | refl => exact ⟨log, .refl⟩
  | tail _ step ih =>
      rcases ih with ⟨between, steps⟩
      cases step with
      | call calls answered => exact ⟨_, steps.tail (.call calls ⟨answered, rfl⟩)⟩

variable {network last : Network ι (ε × (ι → List (Event Answer))) Op Answer α}

/-- What was answered stays in the log. -/
theorem log_prefix_of_steps (steps : Relation.ReflTransGen (Step (logged answers)) network last)
    (party : ι) : network.environment.2 party <+: last.environment.2 party := by
  induction steps with
  | refl => exact List.prefix_rfl
  | tail _ step ih =>
      cases step with
      | @call other op next answer environment calls answered =>
          apply ih.trans
          rw [answered.2]
          by_cases same : party = other
          · subst other
            simp
          · simp [same]

/-- Nothing has happened if nothing was logged. -/
theorem eq_of_steps_of_log (steps : Relation.ReflTransGen (Step (logged answers)) network last)
    (same : network.environment.2 = last.environment.2) : network = last := by
  rcases steps.cases_head with same | ⟨next, step, rest⟩
  · exact same
  · cases step with
    | @call party op next answer environment calls answered =>
        have longer := log_prefix_of_steps rest party
        rw [answered.2, Function.update_self, ← same] at longer
        simp [List.IsPrefix] at longer

end Logged

end Program

namespace Streaming

open TurnTaking (Side)
open Program (Answered Commutes Environment Network Step logged)

variable {α η β : Type}

/-! ## Connections on which nothing is lost -/

/-- How a connection answers that delivers everything, even after it was closed. -/
inductive Patient : Environment Side (Side → List α) (StreamOp α) (StreamOp.Answer α η) where
  | flows {inFlight later : Side → List α} {side : Side} {op : StreamOp α} {answer : op.Answer α η}
      (answered : Flows inFlight side op answer later) : Patient inFlight side op answer later
  | closed {inFlight : Side → List α} {side : Side} : Patient inFlight side .close () inFlight

theorem patient_of_answered {inFlight later : Side → List α} {side : Side}
    {events : List (StreamEvent α η)} (answered : Answered Flows side inFlight events later) :
    Answered Patient side inFlight events later := by
  induction answered with
  | refl => exact .refl _
  | call flows _ ih => exact .call (.flows flows) ih

theorem Flows.deterministic {inFlight first second : Side → List α} {side : Side} {op : StreamOp α}
    {left right : op.Answer α η} (leftAnswered : Flows inFlight side op left first)
    (rightAnswered : Flows inFlight side op right second) : left = right ∧ first = second := by
  cases leftAnswered with
  | written =>
      cases rightAnswered
      exact ⟨rfl, rfl⟩
  | flushed =>
      cases rightAnswered
      exact ⟨rfl, rfl⟩
  | @read _ _ length items rest arrived =>
      cases rightAnswered with
      | @read _ _ _ otherItems otherRest otherArrived =>
          have same := arrived.symm.trans otherArrived
          rcases List.append_inj same (by simp) with ⟨sameItems, sameRest⟩
          rw [Vector.toList_inj] at sameItems
          subst sameItems sameRest
          exact ⟨rfl, rfl⟩

/-- What one side writes or reads, the other can still do. -/
theorem Flows.commute {inFlight first second : Side → List α} {side : Side}
    {op otherOp : StreamOp α} {answer : op.Answer α η} {otherAnswer : otherOp.Answer α η}
    (answered : Flows inFlight side op answer first)
    (otherAnswered : Flows inFlight side.other otherOp otherAnswer second) :
    ∃ after, Flows first side.other otherOp otherAnswer after ∧
      Flows second side op answer after := by
  have distinct := side.other_ne
  cases answered with
  | @written _ _ items =>
      cases otherAnswered with
      | @written _ _ otherItems =>
          rw [Side.other_other]
          have now := @Flows.written α η (Function.update inFlight side.other
            (inFlight side.other ++ items)) side.other otherItems
          have again := @Flows.written α η (Function.update inFlight side
            (inFlight side ++ otherItems)) side items
          rw [Function.update_of_ne distinct] at again
          rw [Side.other_other, Function.update_of_ne distinct.symm,
            Function.update_comm distinct] at now
          exact ⟨_, now, again⟩
      | flushed => exact ⟨_, .flushed, .written⟩
      | @read _ _ _ read rest arrived =>
          refine ⟨_, @Flows.read _ _ _ _ _ read (rest ++ items) ?_, ?_⟩
          · simp [arrived]
          · have again := @Flows.written α η (Function.update inFlight side.other rest) side items
            simpa using again
  | flushed => exact ⟨second, otherAnswered, .flushed⟩
  | @read _ _ _ read rest arrived =>
      cases otherAnswered with
      | @written _ _ otherItems =>
          rw [Side.other_other]
          have now := @Flows.written α η (Function.update inFlight side rest) side.other otherItems
          have again := @Flows.read α η
            (Function.update inFlight side (inFlight side ++ otherItems)) side _ read
            (rest ++ otherItems) (by simp [arrived])
          rw [Function.update_idem] at again
          rw [Side.other_other, Function.update_self, Function.update_idem] at now
          exact ⟨_, now, again⟩
      | flushed => exact ⟨_, .flushed, .read arrived⟩
      | @read _ _ _ otherRead otherRest otherArrived =>
          refine ⟨_, @Flows.read _ _ _ _ _ otherRead otherRest ?_, ?_⟩
          · simpa [distinct] using otherArrived
          · have again := @Flows.read α η (Function.update inFlight side.other otherRest) side _
              read rest (by simpa [distinct.symm] using arrived)
            rw [Function.update_comm distinct] at again
            exact again

/-- The order in which the two ends are served makes no difference. -/
theorem Patient.commutes : Commutes (Patient : Environment Side (Side → List α) (StreamOp α)
    (StreamOp.Answer α η)) where
  deterministic := by
    intro before first second party op left right leftAnswered rightAnswered
    cases leftAnswered with
    | flows leftAnswered =>
        cases rightAnswered with
        | flows rightAnswered => exact leftAnswered.deterministic rightAnswered
        | closed => cases leftAnswered
    | closed =>
        cases rightAnswered with
        | flows rightAnswered => cases rightAnswered
        | closed => exact ⟨rfl, rfl⟩
  commute := by
    intro before first second party other op otherOp answer otherAnswer distinct answered
      otherAnswered
    rw [Side.eq_other_of_ne distinct.symm] at otherAnswered ⊢
    cases answered with
    | flows answered =>
        cases otherAnswered with
        | flows otherAnswered =>
            rcases answered.commute otherAnswered with ⟨after, otherNow, partyNow⟩
            exact ⟨after, .flows otherNow, .flows partyNow⟩
        | closed => exact ⟨first, .closed, .flows answered⟩
    | closed => exact ⟨second, otherAnswered, .closed⟩

/-- What was written has been read, or is on its way. -/
def Accounts (environment : (Side → List α) × (Side → List (StreamEvent α η))) : Prop :=
  ∀ side, received (environment.2 side) ++ environment.1 side = written (environment.2 side.other)

/-- What one end has received is what the other has sent, but for what is on its way. -/
theorem Accounts.answers {before after : (Side → List α) × (Side → List (StreamEvent α η))}
    {side : Side} {op : StreamOp α} {answer : op.Answer α η} (accounts : Accounts before)
    (answered : logged Patient before side op answer after) : Accounts after := by
  rcases before with ⟨inFlight, log⟩
  rcases after with ⟨later, logLater⟩
  rcases answered with ⟨answered, same⟩
  simp only at answered same
  subst same
  have own := accounts side
  have others := accounts side.other
  simp only [Side.other_other] at own others
  have distinct := side.other_ne
  rw [Accounts, Side.forall_iff side, Side.other_other]
  cases answered with
  | flows answered =>
      cases answered with
      | written => simpa [distinct, distinct.symm, ← others] using own
      | flushed => simpa [distinct] using ⟨own, others⟩
      | read arrived =>
          rw [arrived] at own
          simpa [distinct, distinct.symm] using ⟨own, others⟩
  | closed => simpa [distinct] using ⟨own, others⟩

theorem Accounts.steps {network last : Network Side ((Side → List α) × (Side → List
      (StreamEvent α η))) (StreamOp α) (StreamOp.Answer α η) β}
    (accounts : Accounts network.environment)
    (steps : Relation.ReflTransGen (Step (logged Patient)) network last) :
    Accounts last.environment := by
  induction steps with
  | refl => exact accounts
  | tail _ step ih =>
      cases step with
      | call _ answered => exact ih.answers answered

/-! ## Connections that are closed -/

def StreamEvent.Failed : StreamEvent α η → Prop
  | ⟨.writeAll _, .error _⟩ | ⟨.flush, .error _⟩ | ⟨.readExact _, .error _⟩ => True
  | _ => False

/-- How a connection answers on which nothing fails until a program closes it. What is on its way
then is lost, and every later operation may fail. -/
def Reliable : Environment Side (Pipes α) (StreamOp α) (StreamOp.Answer α η) :=
  fun before side op answer after => Answers before side op answer after ∧
    ((∀ reader, (before reader).cut = false) →
      ¬StreamEvent.Failed (⟨op, answer⟩ : StreamEvent α η))

section Uncut

variable {inFlight later : Side → List α} {side : Side} {op : StreamOp α}
  {answer : op.Answer α η}

theorem Flows.reliable (flows : Flows inFlight side op answer later) :
    Reliable (flowing inFlight) side op answer (flowing later) := by
  refine ⟨flows.answers, ?_⟩
  intro _
  cases flows <;> exact not_false

/-- As long as the connection is not closed, it delivers everything. -/
theorem Reliable.flows {after : Pipes α}
    (answered : Reliable (flowing inFlight) side op answer after) :
    (∃ later, after = flowing later ∧ Flows inFlight side op answer later) ∨
      (⟨op, answer⟩ : StreamEvent α η) = ⟨.close, ()⟩ := by
  rcases answered with ⟨answered, holds⟩
  have unfailed := holds fun _ => rfl
  cases answered with
  | written =>
      left
      refine ⟨_, ?_, .written⟩
      rw [flowing_update]
      rfl
  | @flushed _ _ answer =>
      cases answer with
      | error error => exact (unfailed trivial).elim
      | ok done => exact .inl ⟨_, rfl, .flushed⟩
  | read arrived =>
      left
      refine ⟨_, ?_, .read arrived⟩
      rw [flowing_update]
      rfl
  | closed => exact .inr rfl
  | writeCut => exact (unfailed trivial).elim
  | readCut => exact (unfailed trivial).elim

end Uncut

/-- A program that closes the connection does nothing else afterwards, and has read all that its
peer writes; and the peer writes last. -/
def ClosesLast (events : Side → List (StreamEvent α η)) : Prop :=
  ∀ side before rest, events side = before ++ ⟨.close, ()⟩ :: rest →
    rest = [] ∧ received before = written (events side.other) ∧
      ∃ said items answer, items ≠ [] ∧ events side.other = said ++ [⟨.writeAll items, answer⟩]

/-- Nothing in the events closes the connection. -/
def NeverCloses (events : List (StreamEvent α η)) : Prop := ∀ event ∈ events, event.1 ≠ .close

section NeverCloses

variable {events : Side → List (StreamEvent α η)}
  {network last : Network Side ((Side → List α) × (Side → List (StreamEvent α η))) (StreamOp α)
    (StreamOp.Answer α η) β}

theorem neverCloses_append {said more : List (StreamEvent α η)} :
    NeverCloses (said ++ more) ↔ NeverCloses said ∧ NeverCloses more := List.forall_mem_append

/-- As long as the connection is only written to and read from, nothing closes it. -/
theorem neverCloses_of_steps (quiet : ∀ side, NeverCloses (network.environment.2 side))
    (steps : Relation.ReflTransGen (Step (logged Flows)) network last) (side : Side) :
    NeverCloses (last.environment.2 side) := by
  induction steps with
  | refl => exact quiet side
  | tail _ step ih =>
      cases step with
      | @call party op next answer environment calls answered =>
          rw [answered.2]
          by_cases same : side = party
          · subst same
            rw [Function.update_self, neverCloses_append]
            refine ⟨ih, ?_⟩
            intro event member
            rw [List.mem_singleton.mp member]
            intro closes
            simp only at closes
            subst closes
            cases answered.1
          · rw [Function.update_of_ne same]
            exact ih

theorem patient_of_flows (steps : Relation.ReflTransGen (Step (logged Flows)) network last) :
    Relation.ReflTransGen (Step (logged Patient)) network last := by
  refine steps.lift id ?_
  intro before after step
  cases step with
  | call calls answered => exact .call calls ⟨.flows answered.1, answered.2⟩

theorem closesLast_of_neverCloses (quiet : ∀ side, NeverCloses (events side)) :
    ClosesLast events := by
  intro side before rest same
  have closes : (⟨.close, ()⟩ : StreamEvent α η) ∈ events side := by
    rw [same]
    exact List.mem_append_right before List.mem_cons_self
  exact absurd rfl (quiet side _ closes)

/-- Only one side closes the connection, when it has read everything and the other has written
its last items. -/
theorem closesLast_of_close {said spoken : List (StreamEvent α η)} {items : List α}
    {answer : Except η Unit} (left : events .left = said ++ [⟨.close, ()⟩])
    (right : events .right = spoken ++ [⟨.writeAll items, answer⟩]) (nonempty : items ≠ [])
    (quietLeft : NeverCloses said) (quietRight : NeverCloses spoken)
    (readAll : received said = written (events .right)) : ClosesLast events := by
  intro side before rest same
  cases side with
  | left =>
      rw [left] at same
      rcases rest.eq_nil_or_concat with none | ⟨init, final, concat⟩
      · rw [none] at same ⊢
        rcases List.append_inj' same rfl with ⟨before_eq, _⟩
        refine ⟨rfl, ?_, spoken, items, answer, nonempty, right⟩
        rw [← before_eq]
        exact readAll
      · exfalso
        rw [concat, List.concat_eq_append, ← List.cons_append, ← List.append_assoc] at same
        rcases List.append_inj' same rfl with ⟨inside, _⟩
        have closes : (⟨.close, ()⟩ : StreamEvent α η) ∈ said := by
          rw [inside]
          exact List.mem_append_right before List.mem_cons_self
        exact quietLeft _ closes rfl
  | right =>
      exfalso
      have closes : (⟨.close, ()⟩ : StreamEvent α η) ∈ events .right := by
        rw [same]
        exact List.mem_append_right before List.mem_cons_self
      rw [right, List.mem_append, List.mem_singleton] at closes
      rcases closes with inside | last
      · exact quietRight _ inside rfl
      · cases last

end NeverCloses

section Ends

variable {program : Side → Program (StreamOp α) (StreamOp.Answer α η) β} {result : Side → β}
  {inFlight : Side → List α} {events : Side → List (StreamEvent α η)}
  {last after : Network Side (Pipes α) (StreamOp α) (StreamOp.Answer α η) β}

/-- Two programs on a new connection, whose events are kept. -/
def fresh (program : Side → Program (StreamOp α) (StreamOp.Answer α η) β) :
    Network Side ((Side → List α) × (Side → List (StreamEvent α η))) (StreamOp α)
      (StreamOp.Answer α η) β :=
  ⟨(fun _ => [], fun _ => []), program⟩

theorem accounts_fresh : Accounts (fresh program).environment := fun _ => rfl

/-- The programs on a connection that is not closed yet are those on one that loses nothing. -/
def Open (program : Side → Program (StreamOp α) (StreamOp.Answer α η) β)
    (last : Network Side (Pipes α) (StreamOp α) (StreamOp.Answer α η) β) : Prop :=
  ∃ inFlight log, last.environment = flowing inFlight ∧
    Relation.ReflTransGen (Step (logged Patient)) (fresh program) ⟨(inFlight, log), last.program⟩

variable (ends : Relation.ReflTransGen (Step (logged Patient)) (fresh program)
  ⟨(inFlight, events), fun side => .done (result side)⟩)

include ends

theorem reaches_end {between : Network Side ((Side → List α) × (Side → List
      (StreamEvent α η))) (StreamOp α) (StreamOp.Answer α η) β}
    (steps : Relation.ReflTransGen (Step (logged Patient)) (fresh program) between) :
    Relation.ReflTransGen (Step (logged Patient)) between
      ⟨(inFlight, events), fun side => .done (result side)⟩ :=
  Patient.commutes.logged.steps_of_stuck ends
    (Program.Network.stuck_of_done fun side => ⟨result side, rfl⟩) steps

/-- When a program closes the connection, its peer has already ended. -/
theorem done_of_close (orderly : ClosesLast events)
    {between : Network Side ((Side → List α) × (Side → List (StreamEvent α η))) (StreamOp α)
      (StreamOp.Answer α η) β} {side : Side}
    {next : Unit → Program (StreamOp α) (StreamOp.Answer α η) β}
    (steps : Relation.ReflTransGen (Step (logged Patient)) (fresh program) between)
    (calls : between.program side = .call .close next) :
    Function.update between.program side (next ()) = fun side => .done (result side) := by
  rcases between with ⟨⟨arriving, log⟩, programs⟩
  simp only at calls
  let closing : Side → List (StreamEvent α η) :=
    Function.update log side (log side ++ [⟨.close, ()⟩])
  have answered : logged Patient (arriving, log) side .close () (arriving, closing) :=
    ⟨.closed, rfl⟩
  have onward := reaches_end ends (steps.tail (.call calls answered))
  have own := Program.log_prefix_of_steps onward side
  have others := Program.log_prefix_of_steps onward side.other
  simp only [closing, Function.update_self, Function.update_of_ne side.other_ne] at own others
  rcases own with ⟨rest, whole⟩
  rw [List.append_assoc, List.singleton_append] at whole
  rcases orderly side _ rest whole.symm with
    ⟨nothing, readAll, said, items, answer, some, writesLast⟩
  have accounts := (accounts_fresh.steps steps) side
  simp only [readAll] at accounts
  -- The peer has written everything, so it has gone through all of its events.
  have peerDone : log side.other = events side.other := by
    rcases others with ⟨missing, othersWhole⟩
    rcases missing.eq_nil_or_concat with none | ⟨init, final, same⟩
    · rw [none, List.append_nil] at othersWhole
      exact othersWhole
    · exfalso
      rw [same, List.concat_eq_append, ← List.append_assoc, writesLast] at othersWhole
      rcases List.append_inj' othersWhole rfl with ⟨before, _⟩
      rw [writesLast, ← before] at accounts
      have none : items = [] := by
        simp at accounts
        exact accounts.2.1
      exact some none
  have logs : closing = events := by
    funext one
    by_cases same : one = side
    · subst one
      simpa [closing, nothing] using whole
    · rw [Side.eq_other_of_ne same]
      simpa [closing] using peerDone
  have arrived := Program.eq_of_steps_of_log onward logs
  exact congrArg Network.program arrived

/-- Until a program closes the connection nothing is lost, and then both have ended. -/
theorem open_or_done (orderly : ClosesLast events)
    (steps : Relation.ReflTransGen (Step Reliable) ⟨fun _ => {}, program⟩ last) :
    Open program last ∨ last.program = fun side => .done (result side) := by
  induction steps with
  | refl => exact .inl ⟨fun _ => [], fun _ => [], rfl, .refl⟩
  | tail _ step ih =>
      cases step with
      | @call side op next answer pipes calls answered =>
          rcases ih with ⟨arriving, log, flowingNow, before⟩ | done
          · rw [flowingNow] at answered
            rcases Reliable.flows answered with ⟨later, same, flows⟩ | closes
            · subst same
              exact .inl ⟨later, _, rfl, before.tail (.call calls ⟨.flows flows, rfl⟩)⟩
            · cases closes
              exact .inr (done_of_close ends orderly before calls)
          · rw [done] at calls
            cases calls

/-- Where the programs end if nothing is lost, there every interleaving ends. -/
theorem done_of_stuck (orderly : ClosesLast events)
    (steps : Relation.ReflTransGen (Step Reliable) ⟨fun _ => {}, program⟩ last)
    (stuck : last.Stuck Reliable) (side : Side) : last.program side = .done (result side) := by
  rcases open_or_done ends orderly steps with ⟨arriving, log, flowingNow, before⟩ | done
  · have arrived := Program.eq_of_steps_of_stuck ?_ (reaches_end ends before)
    · exact congrFun (congrArg Network.program arrived) side
    · intro next step
      cases step with
      | @call party op next answer environment calls answered =>
          rcases last with ⟨pipes, programs⟩
          simp only at flowingNow
          subst flowingNow
          rcases answered with ⟨answered, _⟩
          cases answered with
          | flows flows => exact stuck _ (.call calls flows.reliable)
          | closed => exact stuck _ (.call calls ⟨.closed, fun _ => not_false⟩)
  · rw [done]

end Ends

end Streaming
