import Mathlib.Data.Fintype.EquivFin
import Mathlib.Logic.Relation
import Mathlib.Logic.Function.Basic
import Mathlib.Tactic.Common

/-!
# Turn-taking protocols and their replicas

In a turn-taking protocol every state leaves the floor to at most one of two
sides. Each side runs a replica of the protocol: it utters a frame when it has
the floor, and it hears the frames of the other side. A message carries the state
and the stamp at which it was uttered, and a replica hears it only there.

Over two FIFO channels one replica may run ahead of the other, and then the
messages in flight are exactly the path from the one that is behind to the one
that is ahead. Everything else about such sessions follows from this invariant.
-/

namespace TurnTaking

universe u v w

/-- The two parties of a session. -/
inductive Side where
  | left
  | right
deriving DecidableEq

namespace Side

def other : Side → Side
  | left => right
  | right => left

@[simp]
theorem other_other (side : Side) : side.other.other = side := by
  cases side <;> rfl

@[simp]
theorem other_ne (side : Side) : side.other ≠ side := by
  cases side <;> simp [other]

theorem eq_other_of_ne {side ahead : Side} (distinct : side ≠ ahead) : side = ahead.other := by
  cases side <;> cases ahead <;> simp_all [other]

instance : Finite Side := by
  apply Finite.of_injective fun side : Side => decide (side = left)
  intro one two same
  cases one <;> cases two <;> simp_all

theorem forall_iff {property : Side → Prop} (side : Side) :
    (∀ one, property one) ↔ property side ∧ property side.other := by
  constructor
  · intro all
    exact ⟨all side, all side.other⟩
  · rintro ⟨own, others⟩ one
    by_cases same : one = side
    · rw [same]
      exact own
    · rw [eq_other_of_ne same]
      exact others

theorem exists_iff {property : Side → Prop} (side : Side) :
    (∃ one, property one) ↔ property side ∨ property side.other := by
  rw [← not_iff_not, not_exists, not_or]
  exact forall_iff side

/-- One value for each side. -/
def pair {α : Type u} (own others : α) : Side → α
  | left => own
  | right => others

@[simp]
theorem pair_left {α : Type u} (own others : α) : pair own others left = own := rfl

@[simp]
theorem pair_right {α : Type u} (own others : α) : pair own others right = others := rfl

@[simp]
theorem update_pair_left {α : Type u} (own others changed : α) :
    Function.update (pair own others) left changed = pair changed others := by
  funext side
  cases side <;> rfl

@[simp]
theorem update_pair_right {α : Type u} (own others changed : α) :
    Function.update (pair own others) right changed = pair own changed := by
  funext side
  cases side <;> rfl

end Side

structure Protocol (σ : Type u) (ι : Type v) where
  next : σ → ι → Option σ
  speaker : ι → Side
  turn : ∀ {state first second afterFirst afterSecond},
    next state first = some afterFirst → next state second = some afterSecond →
      speaker first = speaker second

/-- One side's view: where it is, how many frames it has stamped, and which it has observed. -/
structure Replica (σ : Type u) (ι : Type v) (κ : Type w) where
  state : σ
  stamp : κ
  observed : List ι

structure Message (σ : Type u) (ι : Type v) (κ : Type w) where
  state : σ
  stamp : κ
  frame : ι

structure Session (σ : Type u) (ι : Type v) (κ : Type w) where
  replica : Side → Replica σ ι κ
  inbox : Side → List (Message σ ι κ)

variable {σ : Type u} {ι : Type v} {κ : Type w} (protocol : Protocol σ ι) (tick : κ → κ)

/-- The state after a list of frames, if all of them are allowed in turn. -/
def Protocol.run (state : σ) (frames : List ι) : Option σ := frames.foldlM protocol.next state

theorem Protocol.run_snoc {state last next : σ} {frames : List ι} {frame : ι}
    (ran : protocol.run state frames = some last)
    (allowed : protocol.next last frame = some next) :
    protocol.run state (frames ++ [frame]) = some next := by
  rw [run] at ran
  simp [run, List.foldlM_append, ran, allowed]

/-- Every frame of a run is allowed somewhere. -/
theorem Protocol.exists_next_of_run {state final : σ} {frames : List ι} {frame : ι}
    (ran : protocol.run state frames = some final) (member : frame ∈ frames) :
    ∃ before after, protocol.next before frame = some after := by
  induction frames generalizing state with
  | nil => simp at member
  | cons head frames ih =>
      rcases Option.bind_eq_some_iff.mp ran with ⟨next, allowed, rest⟩
      rcases List.mem_cons.mp member with same | later
      · rw [same]
        exact ⟨state, next, allowed⟩
      · exact ih rest later

def Replica.message (replica : Replica σ ι κ) (frame : ι) : Message σ ι κ :=
  { state := replica.state, stamp := replica.stamp, frame }

/-- The replica after a frame that leads to `next`. -/
def Replica.observe (replica : Replica σ ι κ) (frame : ι) (next : σ) : Replica σ ι κ :=
  { state := next, stamp := tick replica.stamp, observed := replica.observed ++ [frame] }

/-- One move of a session over FIFO channels. -/
inductive Step : Session σ ι κ → Session σ ι κ → Prop where
  | utter {session : Session σ ι κ} (side : Side) {frame : ι} {next : σ}
      (floor : protocol.speaker frame = side)
      (allowed : protocol.next (session.replica side).state frame = some next) :
      Step session
        { replica := Function.update session.replica side
            ((session.replica side).observe tick frame next)
          inbox := Function.update session.inbox side.other
            (session.inbox side.other ++ [(session.replica side).message frame]) }
  | hear {session : Session σ ι κ} (side : Side) {frame : ι} {rest : List (Message σ ι κ)}
      {next : σ} (queued : session.inbox side = (session.replica side).message frame :: rest)
      (foreign : protocol.speaker frame = side.other)
      (allowed : protocol.next (session.replica side).state frame = some next) :
      Step session
        { replica := Function.update session.replica side
            ((session.replica side).observe tick frame next)
          inbox := Function.update session.inbox side rest }

/-- The messages lead from one replica to the other, all uttered by `side`. -/
inductive Path (side : Side) :
    Replica σ ι κ → List (Message σ ι κ) → Replica σ ι κ → Prop where
  | nil (replica : Replica σ ι κ) : Path side replica [] replica
  | cons {behind ahead : Replica σ ι κ} {frame : ι} {next : σ} {rest : List (Message σ ι κ)}
      (floor : protocol.speaker frame = side)
      (allowed : protocol.next behind.state frame = some next)
      (path : Path side (behind.observe tick frame next) rest ahead) :
      Path side behind (behind.message frame :: rest) ahead

variable {protocol tick}

theorem Path.observed_prefix {side : Side} {behind ahead : Replica σ ι κ}
    {messages : List (Message σ ι κ)} (path : Path protocol tick side behind messages ahead) :
    behind.observed <+: ahead.observed := by
  induction path with
  | nil => exact List.prefix_rfl
  | cons _ _ _ ih => exact (List.prefix_append _ _).trans ih

theorem Path.snoc {side : Side} {behind ahead : Replica σ ι κ} {messages : List (Message σ ι κ)}
    (path : Path protocol tick side behind messages ahead) {frame : ι} {next : σ}
    (floor : protocol.speaker frame = side)
    (allowed : protocol.next ahead.state frame = some next) :
    Path protocol tick side behind (messages ++ [ahead.message frame])
      (ahead.observe tick frame next) := by
  induction path with
  | nil replica => exact .cons floor allowed (.nil _)
  | cons headFloor headAllowed _ ih => exact .cons headFloor headAllowed (ih allowed)

variable (protocol tick)

/-- `ahead` has nothing to read, and the other side's inbox is the path that leads to it. -/
def RunAhead (ahead : Side) (session : Session σ ι κ) : Prop :=
  session.inbox ahead = [] ∧
    Path protocol tick ahead (session.replica ahead.other) (session.inbox ahead.other)
      (session.replica ahead)

structure Invariant (start : σ) (session : Session σ ι κ) : Prop where
  runAhead : ∃ ahead, RunAhead protocol tick ahead session
  observed : ∀ side, protocol.run start (session.replica side).observed =
    some (session.replica side).state

variable {protocol tick}

/-- Only the party that is ahead can speak, and it stays ahead. -/
theorem runAhead_utter {ahead side : Side} {session : Session σ ι κ} {frame : ι} {next : σ}
    (runAhead : RunAhead protocol tick ahead session) (floor : protocol.speaker frame = side)
    (allowed : protocol.next (session.replica side).state frame = some next) :
    RunAhead protocol tick side
      { replica := Function.update session.replica side
          ((session.replica side).observe tick frame next)
        inbox := Function.update session.inbox side.other
          (session.inbox side.other ++ [(session.replica side).message frame]) } := by
  rcases runAhead with ⟨nothing, path⟩
  by_cases same : side = ahead
  · subst same
    refine ⟨?_, ?_⟩
    · simpa [Function.update_of_ne side.other_ne.symm] using nothing
    · simpa [Function.update_of_ne side.other_ne] using path.snoc floor allowed
  · rcases Side.eq_other_of_ne same with rfl
    rw [Side.other_other] at *
    -- The side that is behind has the floor only when no message is in flight.
    generalize inFlight : session.inbox ahead.other = messages at path
    generalize behindEq : session.replica ahead.other = behind at path
    generalize aheadEq : session.replica ahead = front at path
    cases path with
    | nil =>
        refine ⟨?_, ?_⟩
        · simpa [Function.update_of_ne (Side.other_ne ahead)] using inFlight
        · rw [behindEq] at allowed
          have path : Path protocol tick ahead.other behind [behind.message frame]
              (behind.observe tick frame next) := .cons floor allowed (.nil _)
          simpa [Function.update_of_ne (Side.other_ne ahead).symm, nothing, behindEq, aheadEq]
            using path
    | cons headFloor headAllowed _ =>
        rw [behindEq] at allowed
        have := protocol.turn headAllowed allowed
        rw [headFloor, floor] at this
        exact absurd this.symm ahead.other_ne

/-- The party behind catches up with the first message of its inbox. -/
theorem runAhead_hear {ahead side : Side} {session : Session σ ι κ} {frame : ι}
    {rest : List (Message σ ι κ)} {next : σ}
    (runAhead : RunAhead protocol tick ahead session)
    (queued : session.inbox side = (session.replica side).message frame :: rest)
    (allowed : protocol.next (session.replica side).state frame = some next) :
    RunAhead protocol tick ahead
      { replica := Function.update session.replica side
          ((session.replica side).observe tick frame next)
        inbox := Function.update session.inbox side rest } := by
  rcases runAhead with ⟨nothing, path⟩
  have behind : side ≠ ahead := by
    rintro rfl
    simp [nothing] at queued
  rcases Side.eq_other_of_ne behind with rfl
  rw [queued] at path
  refine ⟨?_, ?_⟩
  · simpa [Function.update_of_ne ahead.other_ne.symm] using nothing
  · cases path with
    | cons floor headAllowed path =>
        rcases Option.some.inj (allowed.symm.trans headAllowed) with rfl
        simpa [Function.update_of_ne ahead.other_ne.symm] using path

/-- Either party may step, and one of them stays ahead of the other. -/
theorem Invariant.step {start : σ} {session after : Session σ ι κ}
    (invariant : Invariant protocol tick start session)
    (step : Step protocol tick session after) : Invariant protocol tick start after := by
  rcases invariant with ⟨⟨ahead, runAhead⟩, observed⟩
  have observedAfter : ∀ {side frame next},
      protocol.next (session.replica side).state frame = some next → ∀ one,
      protocol.run start (Function.update session.replica side
        ((session.replica side).observe tick frame next) one).observed =
      some (Function.update session.replica side
        ((session.replica side).observe tick frame next) one).state := by
    intro side frame next allowed one
    by_cases same : one = side
    · subst same
      simpa [Replica.observe] using protocol.run_snoc (observed one) allowed
    · simpa [Function.update_of_ne same] using observed one
  cases step with
  | utter side floor allowed =>
      exact ⟨⟨side, runAhead_utter runAhead floor allowed⟩, observedAfter allowed⟩
  | hear side queued foreign allowed =>
      exact ⟨⟨ahead, runAhead_hear runAhead queued allowed⟩, observedAfter allowed⟩

theorem Invariant.run {start : σ} {session after : Session σ ι κ}
    (invariant : Invariant protocol tick start session)
    (steps : Relation.ReflTransGen (Step protocol tick) session after) :
    Invariant protocol tick start after := by
  induction steps with
  | refl => exact invariant
  | tail _ step ih => exact ih.step step

/-- Two replicas that stand at the same place, with nothing in flight. -/
theorem invariant_start {start : σ} {session : Session σ ι κ} {replica : Replica σ ι κ}
    (replicas : ∀ side, session.replica side = replica)
    (empty : ∀ side, session.inbox side = [])
    (observed : protocol.run start replica.observed = some replica.state) :
    Invariant protocol tick start session := by
  refine ⟨⟨.left, empty .left, ?_⟩, fun side => by simpa [replicas side] using observed⟩
  rw [replicas, replicas, empty]
  exact .nil _

namespace Invariant

variable {start : σ} {session : Session σ ι κ} (invariant : Invariant protocol tick start session)

include invariant

/-- At most one direction has messages in flight. -/
theorem inbox_empty_or : session.inbox .left = [] ∨ session.inbox .right = [] := by
  rcases invariant with ⟨⟨ahead, nothing, _⟩, _⟩
  cases ahead with
  | left => exact Or.inl nothing
  | right => exact Or.inr nothing

/-- The head of an inbox can always be heard. -/
theorem head_heard {side : Side} {message : Message σ ι κ} {rest : List (Message σ ι κ)}
    (queued : session.inbox side = message :: rest) :
    message = (session.replica side).message message.frame ∧
      protocol.speaker message.frame = side.other ∧
      ∃ next, protocol.next (session.replica side).state message.frame = some next := by
  rcases invariant with ⟨⟨ahead, nothing, path⟩, _⟩
  have behind : side ≠ ahead := by
    rintro rfl
    simp [nothing] at queued
  rcases Side.eq_other_of_ne behind with rfl
  rw [queued] at path
  cases path with
  | cons floor allowed _ =>
        refine ⟨rfl, ?_, _, allowed⟩
        rw [Side.other_other]
        exact floor

/-- One side has observed no more than a prefix of what the other has. -/
theorem observed_prefix : (session.replica .left).observed <+: (session.replica .right).observed ∨
    (session.replica .right).observed <+: (session.replica .left).observed := by
  rcases invariant with ⟨⟨ahead, _, path⟩, _⟩
  cases ahead with
  | left => exact Or.inr path.observed_prefix
  | right => exact Or.inl path.observed_prefix

/-- With nothing in flight, both sides have made the same observations. -/
theorem replicas_eq (empty : ∀ side, session.inbox side = []) :
    session.replica .left = session.replica .right := by
  rcases invariant with ⟨⟨ahead, _, path⟩, _⟩
  rw [empty] at path
  generalize behindEq : session.replica ahead.other = behind at path
  generalize aheadEq : session.replica ahead = front at path
  cases path
  cases ahead with
  | left => exact aheadEq.trans behindEq.symm
  | right => exact behindEq.trans aheadEq.symm

end Invariant

/-! ## Records of one conversation

Each side keeps the frames that it has uttered and heard, in its own order. If no more was heard
than was uttered, the two records differ only in how far they go. -/

section Records

variable {α : Type u} {β : Type v} {γ : Type w} [DecidableEq γ] {next : α → β → Option α}
  {author : β → γ} {one two : γ}

/-- Of two runs, each by a party that has heard only a beginning of what the other one has said, one
is a beginning of the other. -/
theorem comparable_of_heard
    (turn : ∀ {state first second afterFirst afterSecond}, next state first = some afterFirst →
      next state second = some afterSecond → author first = author second)
    (distinct : one ≠ two) {state final otherFinal : α} {own others : List β}
    (ran : own.foldlM next state = some final)
    (othersRan : others.foldlM next state = some otherFinal)
    (heard : own.filter (author · ≠ one) <+: others.filter (author · = two))
    (othersHeard : others.filter (author · ≠ two) <+: own.filter (author · = one)) :
    own <+: others ∨ others <+: own := by
  induction own generalizing state others with
  | nil => exact .inl List.nil_prefix
  | cons frame own ih =>
      cases others with
      | nil => exact .inr List.nil_prefix
      | cons other others =>
          rcases Option.bind_eq_some_iff.mp ran with ⟨target, allowed, rest⟩
          rcases Option.bind_eq_some_iff.mp othersRan with ⟨otherTarget, otherAllowed, othersRest⟩
          have sameAuthor := turn allowed otherAllowed
          suffices same : frame = other ∧
              own.filter (author · ≠ one) <+: others.filter (author · = two) ∧
              others.filter (author · ≠ two) <+: own.filter (author · = one) by
            rcases same with ⟨same, onward, othersOnward⟩
            subst same
            rw [allowed, Option.some.injEq] at otherAllowed
            subst otherAllowed
            simpa using ih rest othersRest onward othersOnward
          by_cases first : author frame = one
          · have foreign : ¬one = two := distinct
            simp only [List.filter_cons, ← sameAuthor, first, foreign, ne_eq, not_true_eq_false,
              not_false_eq_true, decide_true, decide_false, if_true, Bool.false_eq_true, if_false,
              List.cons_prefix_cons] at heard othersHeard
            exact ⟨othersHeard.1.symm, heard, othersHeard.2⟩
          · by_cases second : author frame = two
            · have foreign : ¬two = one := distinct.symm
              simp only [List.filter_cons, ← sameAuthor, second, foreign, ne_eq, not_true_eq_false,
                not_false_eq_true, decide_true, decide_false, if_true, Bool.false_eq_true, if_false,
                List.cons_prefix_cons] at heard othersHeard
              exact ⟨heard.1, heard.2, othersHeard⟩
            · -- Nobody who is heard is a third party.
              have member : frame ∈ (other :: others).filter (author · = two) := by
                apply heard.subset
                simp [first]
              simp [second] at member

end Records

end TurnTaking
