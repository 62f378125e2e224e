import Colloq.Library.TurnTaking
import Mathlib.Data.Set.Function
import Mathlib.Order.Interval.Set.Defs

/-!
# Turn-taking over a network that replays

The network keeps every message and may deliver any of them to either side, any
number of times. A replica hears a message only at the state and the stamp that
the message carries. As long as the stamps do not repeat, the two transcripts
stay comparable: one is the other with messages of the side that runs ahead.
Hence what a side has heard is a prefix of what the other has uttered.
-/

namespace TurnTaking

universe u v w

variable {σ : Type u} {ι : Type v} {κ : Type w} (protocol : Protocol σ ι) (tick : κ → κ)
  (start : σ) (zero : κ)

/-- The messages that a replica has uttered or heard, and where they have led it. -/
inductive Transcript : List (Message σ ι κ) → σ → κ → Prop where
  | nil : Transcript [] start zero
  | snoc {messages : List (Message σ ι κ)} {state next : σ} {stamp : κ} {frame : ι}
      (before : Transcript messages state stamp)
      (allowed : protocol.next state frame = some next) :
      Transcript (messages ++ [⟨state, stamp, frame⟩]) next (tick stamp)

variable {protocol tick start zero}

namespace Transcript

variable {messages rest : List (Message σ ι κ)} {message : Message σ ι κ} {state other : σ}
  {stamp : κ}

theorem stamp_eq (transcript : Transcript protocol tick start zero messages state stamp) :
    stamp = tick^[messages.length] zero := by
  induction transcript with
  | nil => rfl
  | snoc _ _ ih =>
      rw [List.length_append, List.length_singleton, Function.iterate_succ_apply', ← ih]

/-- A longer transcript was once the shorter one, and the message was allowed there. -/
theorem of_append
    (transcript : Transcript protocol tick start zero (messages ++ message :: rest) state stamp) :
    Transcript protocol tick start zero messages message.state message.stamp ∧
      ∃ next, protocol.next message.state message.frame = some next := by
  generalize whole : messages ++ message :: rest = all at transcript
  induction transcript generalizing rest with
  | nil => simp at whole
  | @snoc before last next stamp frame transcript allowed ih =>
      rcases List.eq_nil_or_concat rest with rfl | ⟨rest, final, rfl⟩
      · rcases List.append_inj' whole rfl with ⟨rfl, same⟩
        rcases List.singleton_inj.mp same with rfl
        exact ⟨transcript, next, allowed⟩
      · rw [List.concat_eq_append, ← List.cons_append, ← List.append_assoc] at whole
        exact ih (List.append_inj' whole rfl).1

/-- The messages determine where the replica is. -/
theorem state_unique {stamp' : κ}
    (first : Transcript protocol tick start zero messages state stamp)
    (second : Transcript protocol tick start zero messages other stamp') : state = other := by
  cases first with
  | nil =>
      generalize empty : ([] : List (Message σ ι κ)) = messages at second
      cases second with
      | nil => rfl
      | snoc => simp at empty
  | snoc before allowed =>
      generalize whole : _ ++ [_] = messages at second
      cases second with
      | nil => simp at whole
      | snoc _ allowed' =>
          rcases List.append_inj' whole rfl with ⟨_, same⟩
          rcases Message.mk.inj (List.singleton_inj.mp same) with ⟨rfl, rfl, rfl⟩
          exact Option.some.inj (allowed.symm.trans allowed')

end Transcript

variable (protocol tick start zero)

/-- Both transcripts are paths, and one is the other with messages of the side that is ahead. -/
structure Comparable (transcript : Side → List (Message σ ι κ)) : Prop where
  path : ∀ side, ∃ state stamp, Transcript protocol tick start zero (transcript side) state stamp
  ahead : ∃ ahead : Side, ∃ rest, transcript ahead = transcript ahead.other ++ rest ∧
    ∀ message ∈ rest, protocol.speaker message.frame = ahead

/-- The messages of a transcript that its own side has uttered. -/
def uttered (side : Side) (messages : List (Message σ ι κ)) : List (Message σ ι κ) :=
  messages.filter fun message => protocol.speaker message.frame = side

/-- The messages of a transcript that come from the other side. -/
def heard (side : Side) (messages : List (Message σ ι κ)) : List (Message σ ι κ) :=
  messages.filter fun message => protocol.speaker message.frame = side.other

section Said

variable {protocol} {messages : List (Message σ ι κ)} {message : Message σ ι κ} {side : Side}

theorem mem_uttered : message ∈ uttered protocol side messages ↔
    message ∈ messages ∧ protocol.speaker message.frame = side := by
  simp [uttered]

theorem uttered_utter (floor : protocol.speaker message.frame = side) :
    uttered protocol side (messages ++ [message]) =
      uttered protocol side messages ++ [message] := by
  simp [uttered, List.filter_append, floor]

theorem heard_utter (floor : protocol.speaker message.frame = side) :
    heard protocol side (messages ++ [message]) = heard protocol side messages := by
  simp [heard, List.filter_append, floor, side.other_ne.symm]

theorem uttered_hear (foreign : protocol.speaker message.frame = side.other) :
    uttered protocol side (messages ++ [message]) = uttered protocol side messages := by
  simp [uttered, List.filter_append, foreign]

theorem heard_hear (foreign : protocol.speaker message.frame = side.other) :
    heard protocol side (messages ++ [message]) = heard protocol side messages ++ [message] := by
  simp [heard, List.filter_append, foreign]

end Said

variable {protocol tick start zero}

namespace Comparable

variable {transcript : Side → List (Message σ ι κ)} {side : Side} {state next : σ} {stamp : κ}
  {frame : ι} (comparable : Comparable protocol tick start zero transcript)

include comparable

theorem path_update
    (here : Transcript protocol tick start zero (transcript side) state stamp)
    (allowed : protocol.next state frame = some next) (one : Side) :
    ∃ state' stamp', Transcript protocol tick start zero
      (Function.update transcript side (transcript side ++ [⟨state, stamp, frame⟩]) one)
      state' stamp' := by
  by_cases same : one = side
  · subst same
    rw [Function.update_self]
    exact ⟨next, tick stamp, here.snoc allowed⟩
  · rw [Function.update_of_ne same]
    exact comparable.path one

/-- Only a side that is not behind can have the floor. -/
theorem utter
    (here : Transcript protocol tick start zero (transcript side) state stamp)
    (floor : protocol.speaker frame = side) (allowed : protocol.next state frame = some next) :
    Comparable protocol tick start zero
      (Function.update transcript side (transcript side ++ [⟨state, stamp, frame⟩])) := by
  refine ⟨comparable.path_update here allowed, ?_⟩
  rcases comparable.ahead with ⟨ahead, rest, split, spoken⟩
  by_cases same : side = ahead
  · subst same
    refine ⟨side, rest ++ [⟨state, stamp, frame⟩], ?_, ?_⟩
    · rw [Function.update_self, Function.update_of_ne side.other_ne, split, List.append_assoc]
    · intro message member
      rcases List.mem_append.mp member with earlier | last
      · exact spoken message earlier
      · rcases List.mem_singleton.mp last with rfl
        exact floor
  · rcases Side.eq_other_of_ne same with rfl
    cases rest with
    | nil =>
        refine ⟨ahead.other, [⟨state, stamp, frame⟩], ?_, ?_⟩
        · rw [Side.other_other, Function.update_self, Function.update_of_ne ahead.other_ne.symm,
            split, List.append_nil]
        · intro message member
          rcases List.mem_singleton.mp member with rfl
          exact floor
    | cons message rest =>
        rcases comparable.path ahead with ⟨_, _, path⟩
        rw [split] at path
        rcases path.of_append with ⟨there, _, messageAllowed⟩
        rw [there.state_unique here] at messageAllowed
        have sameSpeaker := protocol.turn messageAllowed allowed
        rw [spoken message List.mem_cons_self, floor] at sameSpeaker
        exact absurd sameSpeaker.symm ahead.other_ne

/-- While stamps do not repeat, only the next message of the other side can be heard. -/
theorem hear {bound : ℕ}
    (here : Transcript protocol tick start zero (transcript side) state stamp)
    (uttered : ⟨state, stamp, frame⟩ ∈ transcript side.other)
    (allowed : protocol.next state frame = some next)
    (distinct : Set.InjOn (fun count => tick^[count] zero) (Set.Iio bound))
    (fits : ∀ side, (transcript side).length < bound) :
    Comparable protocol tick start zero
      (Function.update transcript side (transcript side ++ [⟨state, stamp, frame⟩])) := by
  refine ⟨comparable.path_update here allowed, ?_⟩
  rcases List.append_of_mem uttered with ⟨before, after, found⟩
  rcases comparable.path side.other with ⟨_, _, path⟩
  rw [found] at path
  have sameStamp := here.stamp_eq.symm.trans path.of_append.1.stamp_eq
  have fitsBefore : before.length < bound := by
    have := fits side.other
    rw [found, List.length_append] at this
    omega
  have sameLength : (transcript side).length = before.length :=
    distinct (fits side) fitsBefore sameStamp
  rcases comparable.ahead with ⟨ahead, rest, split, spoken⟩
  by_cases same : side = ahead
  · subst same
    have longer := congrArg List.length split
    rw [found, List.length_append, List.length_append, List.length_cons] at longer
    omega
  · rcases Side.eq_other_of_ne same with rfl
    rw [Side.other_other] at *
    rcases List.append_inj (split.symm.trans found) sameLength with ⟨sameBefore, rfl⟩
    refine ⟨ahead, after, ?_, fun message member =>
      spoken message (List.mem_cons_of_mem _ member)⟩
    rw [Function.update_self, Function.update_of_ne ahead.other_ne.symm, split,
      List.append_assoc, List.singleton_append]

/-- What a side has heard is a prefix of what the other side has uttered. -/
theorem heard_prefix (side : Side) :
    heard protocol side (transcript side) <+:
      uttered protocol side.other (transcript side.other) := by
  rcases comparable.ahead with ⟨ahead, rest, split, spoken⟩
  by_cases same : side = ahead
  · subst same
    have foreign : rest.filter (fun message => protocol.speaker message.frame = side.other) =
        [] := by
      rw [List.filter_eq_nil_iff]
      intro message member
      simpa [spoken message member] using side.other_ne.symm
    have all : heard protocol side (transcript side) =
        uttered protocol side.other (transcript side.other) := by
      rw [heard, uttered, split, List.filter_append, foreign, List.append_nil]
    exact all ▸ List.prefix_rfl
  · rcases Side.eq_other_of_ne same with rfl
    rw [heard, uttered, Side.other_other, split]
    exact (List.prefix_append _ _).filter _

/-- Whatever is in a transcript was uttered once by either side. -/
theorem length_le (side : Side) : (transcript side).length ≤
    (uttered protocol .left (transcript .left)).length +
      (uttered protocol .right (transcript .right)).length := by
  have parts : (transcript side).length = (uttered protocol side (transcript side)).length +
      (heard protocol side (transcript side)).length := by
    rw [uttered, heard, ← List.countP_eq_length_filter, ← List.countP_eq_length_filter,
      List.length_eq_countP_add_countP
        (fun message => decide (protocol.speaker message.frame = side))]
    congr 2
    funext message
    cases side <;> cases protocol.speaker message.frame <;> rfl
  have shorter := (comparable.heard_prefix side).length_le
  cases side with
  | left => simp only [Side.other] at shorter; omega
  | right => simp only [Side.other] at shorter; omega

end Comparable

end TurnTaking
