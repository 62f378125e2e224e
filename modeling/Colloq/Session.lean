import Colloq.JsonText
import Colloq.Peers

/-!
# Sessions over FIFO channels

The two machines of a compiled conversation, each connected to the other by one
reliable FIFO channel. A session abstracts to a turn-taking session whose stamps
are the sequence numbers, and inherits its run-ahead invariant: no accept fails,
one channel is always empty, and nobody waits for a frame that cannot come.
-/

namespace Colloq

open TurnTaking (Side)

variable {crates : Crates} {conversation : Conversation}

/-- A machine, and the frames it has emitted or accepted. -/
structure Party where
  machine : EndpointMachine
  observed : List Frame

structure Session where
  party : Side → Party
  inbox : Side → List WireEnvelope

namespace Session

def start (machine : Side → EndpointMachine) : Session where
  party side := { machine := machine side, observed := [] }
  inbox _ := []

/-- Either machine performs an action that its state allows, or calls `accept` on the head of
its channel, with whatever result. -/
inductive Step : Session → Session → Prop where
  | emit {session : Session} (side : Side) {action : EndpointMachine.Action}
      {envelope : WireEnvelope} {machine : EndpointMachine}
      (performed : (session.party side).machine.perform action = some (.ok envelope, machine)) :
      Step session
        { party := Function.update session.party side
            { machine, observed := (session.party side).observed ++ [envelope.frame] }
          inbox := Function.update session.inbox side.other
            (session.inbox side.other ++ [envelope]) }
  | deliver {session : Session} (side : Side) {envelope : WireEnvelope}
      {rest : List WireEnvelope} {result : Except RuntimeError Frame}
      {machine : EndpointMachine} (queued : session.inbox side = envelope :: rest)
      (returned : (session.party side).machine.accept envelope = some (result, machine)) :
      Step session
        { party := Function.update session.party side
            { machine, observed := (session.party side).observed ++ result.toOption.toList }
          inbox := Function.update session.inbox side rest }

def Reachable (machine : Side → EndpointMachine) : Session → Prop :=
  Relation.ReflTransGen Step (start machine)

end Session

/-! ## The abstraction to turn-taking sessions -/

def Party.replica (party : Party) : TurnTaking.Replica String Frame UInt64 where
  state := party.machine.current
  stamp := party.machine.sequence
  observed := party.observed

namespace Session

def abstract (session : Session) : TurnTaking.Session String Frame UInt64 where
  replica side := (session.party side).replica
  inbox side := (session.inbox side).map WireEnvelope.message

theorem abstract_inbox (session : Session) (side : Side) :
    session.abstract.inbox side = (session.inbox side).map WireEnvelope.message := rfl

theorem abstract_update (session : Session) (side reader : Side) (party : Party)
    (inbox : List WireEnvelope) :
    abstract { party := Function.update session.party side party
               inbox := Function.update session.inbox reader inbox } =
      { replica := Function.update session.abstract.replica side party.replica
        inbox := Function.update session.abstract.inbox reader
          (inbox.map WireEnvelope.message) } := by
  simp only [abstract, TurnTaking.Session.mk.injEq]
  refine ⟨?_, ?_⟩
  · funext one
    exact Function.apply_update (fun _ => Party.replica) session.party side party one
  · funext one
    exact Function.apply_update (fun _ => List.map WireEnvelope.message) session.inbox reader
      inbox one

/-- The turn-taking invariant, for machines of one conversation and sealed envelopes. -/
structure Invariant (crates : Crates) (conversation : Conversation) (role : Side → String)
    (session : Session) : Prop where
  sides : conversation.Sides role
  belongs : ∀ side, (session.party side).machine.Belongs crates conversation (role side)
  sealed : ∀ side, ∀ envelope ∈ session.inbox side,
    envelope = conversation.seal crates envelope.message
  turnTaking : TurnTaking.Invariant (conversation.protocol (role .left)) (· + 1)
    conversation.initial session.abstract

namespace Invariant

variable {role : Side → String} {session after : Session}
  (invariant : Invariant crates conversation role session)

include invariant

/-- The head of a channel can be heard, and is always accepted. -/
theorem accept_head {side : Side} {envelope : WireEnvelope} {rest : List WireEnvelope}
    (queued : session.inbox side = envelope :: rest) :
    session.abstract.inbox side =
        (session.abstract.replica side).message envelope.frame :: rest.map WireEnvelope.message ∧
      (conversation.protocol (role .left)).speaker envelope.frame = side.other ∧
      ∃ next, (conversation.protocol (role .left)).next (session.party side).machine.current
          envelope.frame = some next ∧
        (session.party side).machine.accept envelope =
          some (.ok envelope.frame, (session.party side).machine.moved next) := by
  have abstractQueued : session.abstract.inbox side =
      envelope.message :: rest.map WireEnvelope.message := by
    rw [abstract_inbox, queued, List.map_cons]
  rcases invariant.turnTaking.head_heard abstractQueued with ⟨same, foreign, next, allowed⟩
  have own := invariant.sealed side envelope (by simp [queued])
  rw [same] at own
  refine ⟨by rw [abstractQueued, same]; rfl, foreign, next, allowed, ?_⟩
  exact (EndpointMachine.Belongs.accept_eq_ok_iff invariant.sides (invariant.belongs side)).mpr
    ⟨own, foreign, next, allowed, rfl⟩

/-- Emitting and accepting keep the two machines on one run of the conversation. -/
theorem step (step : Step session after) : Invariant crates conversation role after := by
  have belongsAfter : ∀ {side frame next},
      (conversation.protocol (role .left)).next (session.party side).machine.current frame =
        some next → ∀ {observed} one,
      (Function.update session.party side
        { machine := (session.party side).machine.moved next, observed } one).machine.Belongs
        crates conversation (role one) := by
    intro side frame next allowed observed
    rcases invariant.sides.next_protocol_iff.mp allowed with ⟨_, _, allowed⟩
    have hasState := invariant.sides.wellFormed.hasState_next allowed
    exact (Function.forall_update_iff _ fun one (party : Party) =>
      party.machine.Belongs crates conversation (role one)).mpr
      ⟨(invariant.belongs side).moved hasState, fun one _ => invariant.belongs one⟩
  have sealedAfter : ∀ {side inbox},
      (∀ envelope ∈ inbox, envelope = conversation.seal crates envelope.message) → ∀ one,
      ∀ envelope ∈ Function.update session.inbox side inbox one,
        envelope = conversation.seal crates envelope.message := by
    intro side inbox genuine
    exact (Function.forall_update_iff _ fun _ (inbox : List WireEnvelope) =>
      ∀ envelope ∈ inbox, envelope = conversation.seal crates envelope.message).mpr
      ⟨genuine, fun one _ => invariant.sealed one⟩
  cases step with
  | emit side performed =>
      rcases (EndpointMachine.Belongs.perform_eq_ok_iff invariant.sides
          (invariant.belongs side)).mp performed with ⟨frame, next, _, floor, allowed, rfl, rfl⟩
      refine ⟨invariant.sides, belongsAfter allowed, sealedAfter ?_, ?_⟩
      · intro envelope member
        rcases List.mem_append.mp member with queued | fresh
        · exact invariant.sealed _ envelope queued
        · rcases List.mem_singleton.mp fresh with rfl
          rfl
      · rw [abstract_update, List.map_append]
        exact invariant.turnTaking.step (.utter side floor allowed)
  | deliver side queued returned =>
      rcases invariant.accept_head queued with ⟨heard, foreign, next, allowed, accepted⟩
      rcases Prod.mk.inj (Option.some.inj (returned.symm.trans accepted)) with ⟨rfl, rfl⟩
      refine ⟨invariant.sides, belongsAfter allowed,
        sealedAfter fun envelope member => invariant.sealed side envelope (by
          rw [queued]
          exact List.mem_cons_of_mem _ member), ?_⟩
      rw [abstract_update]
      exact invariant.turnTaking.step (.hear side heard foreign allowed)

theorem run (steps : Relation.ReflTransGen Step session after) :
    Invariant crates conversation role after := by
  induction steps with
  | refl => exact invariant
  | tail _ step ih => exact ih.step step

/-- With both channels empty, both parties have seen the same. -/
theorem replica_eq (empty : ∀ side, session.inbox side = []) :
    (session.party .left).replica = (session.party .right).replica := by
  refine invariant.turnTaking.replicas_eq fun side => ?_
  rw [abstract_inbox, empty, List.map_nil]

theorem inbox_empty_or : session.inbox .left = [] ∨ session.inbox .right = [] := by
  have := invariant.turnTaking.inbox_empty_or
  simpa only [abstract_inbox, List.map_eq_nil_iff] using this

/-- What a party has observed is a path of the global graph to its current state. -/
theorem run_observed (side : Side) :
    conversation.run conversation.initial (session.party side).observed =
      some (session.party side).machine.current := by
  have abstractRun := invariant.turnTaking.observed side
  exact Conversation.run_of_run_protocol abstractRun

/-- From empty channels, a frame is emitted by one machine and accepted by the other. -/
theorem exchange (empty : ∀ side, session.inbox side = []) {frame : Frame}
    (sendable : frame.Sendable) {next : String}
    (allowed : conversation.next (session.party .left).machine.current frame = some next) :
    ∃ after, Relation.ReflTransGen Step session after ∧ (∀ side, after.inbox side = []) ∧
      ∀ side, (after.party side).observed = (session.party side).observed ++ [frame] := by
  rcases sendable.exists_action with ⟨action, acts⟩
  rcases sendable.exists_author with ⟨sender, author⟩
  rcases invariant.sides.hasRole_iff.mp
    (invariant.sides.wellFormed.hasRole_author allowed author) with ⟨side, rfl⟩
  have sameCurrent : (session.party side).machine.current =
      (session.party .left).machine.current := by
    have := congrArg TurnTaking.Replica.state (invariant.replica_eq empty)
    cases side with
    | left => rfl
    | right => exact this.symm
  rw [← sameCurrent] at allowed
  have performed := (EndpointMachine.Belongs.perform_eq_ok_iff invariant.sides
    (invariant.belongs side)).mpr ⟨frame, next, acts, invariant.sides.speaker_eq author,
      invariant.sides.next_protocol_iff.mpr ⟨side, author, allowed⟩, rfl, rfl⟩
  have emitted := Step.emit side performed
  have queued : (Function.update session.inbox side.other
      (session.inbox side.other ++ [conversation.seal crates
        ⟨(session.party side).machine.current, (session.party side).machine.sequence, frame⟩]))
        side.other = [conversation.seal crates
        ⟨(session.party side).machine.current, (session.party side).machine.sequence, frame⟩] := by
    rw [Function.update_self, empty, List.nil_append]
  rcases (invariant.step emitted).accept_head queued with ⟨_, _, _, _, accepted⟩
  have delivered := Step.deliver side.other queued accepted
  refine ⟨_, .tail (.single emitted) delivered, ?_, ?_⟩
  · intro one
    by_cases same : one = side.other
    · simp [same]
    · simp [Function.update_of_ne same, empty]
  · intro one
    by_cases same : one = side.other
    · subst same
      simp [Except.toOption, Conversation.seal]
    · obtain rfl : one = side := by
        simpa using Side.eq_other_of_ne same
      simp [Function.update_of_ne same, Conversation.seal]

/-- Nothing is on its way to an endpoint that is complete. -/
theorem inbox_eq_nil_of_isComplete {side : Side}
    (complete : (session.party side).machine.isComplete = some true) :
    session.inbox side = [] := by
  rcases queued : session.inbox side with _ | ⟨envelope, rest⟩
  · rfl
  · rcases invariant.accept_head queued with ⟨_, _, next, allowed, _⟩
    rcases invariant.sides.next_protocol_iff.mp allowed with ⟨_, author, globalAllowed⟩
    rcases Option.bind_eq_some_iff.mp globalAllowed with ⟨state, found, advanced⟩
    have terminal := ((invariant.belongs side).executes.report_eq found 0).1.symm.trans complete
    have floor := GlobalState.author_eq_of_advance advanced author
    rw [GlobalState.author_eq_none_iff.mpr (Option.some.inj terminal)] at floor
    simp at floor

/-- With nothing in flight, either both machines are complete or one has the floor. -/
theorem isComplete_or_canEmit (empty : ∀ side, session.inbox side = []) :
    (∀ side, (session.party side).machine.isComplete = some true) ∨
      ∃ side, (session.party side).machine.CanEmit := by
  have sameCurrent := congrArg TurnTaking.Replica.state (invariant.replica_eq empty)
  rcases (invariant.belongs .left).executes.state_eq with ⟨state, member, found, _⟩
  have foundAt : ∀ side,
      conversation.stateMap[(session.party side).machine.current]? = some state := by
    intro side
    cases side with
    | left => exact found
    | right => exact (congrArg (conversation.stateMap[·]?) sameCurrent).symm.trans found
  rcases floor : state.author with _ | sender
  · have terminal := GlobalState.author_eq_none_iff.mp floor
    refine Or.inl fun side => ?_
    rw [((invariant.belongs side).executes.report_eq (foundAt side) 0).1]
    exact congrArg some terminal
  · rcases invariant.sides.hasRole_iff.mp
      (invariant.sides.wellFormed.hasRole_floor member floor) with ⟨side, rfl⟩
    have belongs := invariant.belongs side
    rw [← belongs.role_eq] at floor
    exact Or.inr ⟨side, belongs.executes.canEmit (foundAt side) floor⟩

end Invariant

section Machines

variable {machine : Side → EndpointMachine} {session : Session}
  (machines : Machines crates conversation machine)

include machines

theorem invariant_start :
    Invariant crates conversation (fun side => (machine side).role) (start machine) where
  sides := machines.sides
  belongs := machines.belongs
  sealed _ _ member := (List.not_mem_nil member).elim
  turnTaking := by
    have fresh : ∀ side, (start machine).abstract.replica side =
        { state := conversation.initial, stamp := 0, observed := [] } := by
      intro side
      simp [abstract, start, Party.replica, machines.current_eq, machines.sequence_eq]
    exact TurnTaking.invariant_start fresh (fun _ => rfl) rfl

theorem invariant_of_reachable (reached : Reachable machine session) :
    Invariant crates conversation (fun side => (machine side).role) session :=
  (invariant_start machines).run reached

/-- Every path of sendable frames is exchanged by some run. -/
theorem exists_exchanged {frames : List Frame} (sendable : ∀ frame ∈ frames, frame.Sendable)
    {final : String} (ran : conversation.run conversation.initial frames = some final) :
    ∃ session, Reachable machine session ∧ (∀ side, session.inbox side = []) ∧
      ∀ side, (session.party side).observed = frames := by
  induction frames using List.reverseRecOn generalizing final with
  | nil => exact ⟨start machine, .refl, fun _ => rfl, fun _ => rfl⟩
  | append_singleton frames frame ih =>
      rw [Conversation.run, List.foldlM_append] at ran
      rcases Option.bind_eq_some_iff.mp ran with ⟨last, before, allowed⟩
      replace allowed : conversation.next last frame = some final := by simpa using allowed
      rcases ih (fun one member => sendable one (List.mem_append_left _ member)) before with
        ⟨session, reached, empty, observed⟩
      have invariant := invariant_of_reachable machines reached
      have current := invariant.run_observed .left
      rw [observed, Conversation.run, before] at current
      rw [Option.some.inj current] at allowed
      rcases invariant.exchange empty (sendable frame (by simp)) allowed with
        ⟨after, steps, emptyAfter, observedAfter⟩
      refine ⟨after, reached.trans steps, emptyAfter, fun side => ?_⟩
      rw [observedAfter, observed]

end Machines

/-- Session fidelity: no accept fails, one channel is always empty, and with nothing in flight
the two machines agree on everything. -/
theorem session_fidelity (crates : Crates) (conversation : Conversation) (plan : ColloqPlan)
    (compiled : ColloqPlan.compile crates conversation = .ok plan) :
    (∃ machine, Machines crates conversation machine) ∧
      ∀ machine session, Machines crates conversation machine → Reachable machine session →
        (∀ side envelope rest, session.inbox side = envelope :: rest →
          ∃ after, (session.party side).machine.accept envelope =
            some (.ok envelope.frame, after)) ∧
        (session.inbox .left = [] ∨ session.inbox .right = []) ∧
        ((∀ side, session.inbox side = []) →
          (session.party .left).machine.current = (session.party .right).machine.current ∧
          (session.party .left).machine.sequence = (session.party .right).machine.sequence ∧
          (session.party .left).observed = (session.party .right).observed) := by
  refine ⟨exists_machines compiled, fun machine session machines reached => ?_⟩
  have invariant := invariant_of_reachable machines reached
  refine ⟨?_, invariant.inbox_empty_or, ?_⟩
  · intro side envelope rest queued
    rcases invariant.accept_head queued with ⟨_, _, _, _, accepted⟩
    exact ⟨_, accepted⟩
  · intro empty
    have same := invariant.replica_eq empty
    exact ⟨congrArg TurnTaking.Replica.state same, congrArg TurnTaking.Replica.stamp same,
      congrArg TurnTaking.Replica.observed same⟩

theorem session_fidelity_inquiry :
    ∃ machine, Machines .reference .inquiry machine ∧
      ∀ session, Reachable machine session →
        (session.inbox .left = [] ∨ session.inbox .right = []) ∧
        ((∀ side, session.inbox side = []) →
          (session.party .left).observed = (session.party .right).observed) := by
  rcases session_fidelity .reference .inquiry _ (ColloqPlan.compile_inquiry _) with
    ⟨⟨machine, machines⟩, fidelity⟩
  refine ⟨machine, machines, fun session reached => ?_⟩
  rcases fidelity machine session machines reached with ⟨_, oneEmpty, agree⟩
  exact ⟨oneEmpty, fun empty => (agree empty).2.2⟩

/-- Projection is sound and complete: the traces that `verify_trace` accepts are exactly those
that the two machines can exchange. -/
theorem projection_sound_and_complete (crates : Crates) (conversation : Conversation)
    (plan : ColloqPlan) (compiled : ColloqPlan.compile crates conversation = .ok plan) :
    (∃ machine, Machines crates conversation machine) ∧
      ∀ machine, Machines crates conversation machine →
        ∀ frames : List Frame, (∀ frame ∈ frames, frame.Sendable) → ∀ final,
          ((∃ report, verifyTrace conversation frames = some (.ok report) ∧
              report.finalState = final) ↔
            ∃ session, Reachable machine session ∧ (∀ side, session.inbox side = []) ∧
              ∀ side, (session.party side).machine.current = final ∧
                (session.party side).observed = frames) := by
  rcases ColloqPlan.compile_eq_ok_iff.mp compiled with ⟨compilable, _⟩
  have wellFormed := compilable.toWellFormed
  refine ⟨exists_machines compiled, fun machine machines frames sendable final => ?_⟩
  constructor
  · rintro ⟨report, accepted, rfl⟩
    rcases (Conversation.verifyTrace_eq_ok_iff wellFormed).mp accepted with
      ⟨last, state, ran, _, rfl⟩
    rcases exists_exchanged machines sendable ran with ⟨session, reached, empty, observed⟩
    refine ⟨session, reached, empty, fun side => ⟨?_, observed side⟩⟩
    have current := (invariant_of_reachable machines reached).run_observed side
    rw [observed, ran] at current
    exact (Option.some.inj current).symm
  · rintro ⟨session, reached, _, agreed⟩
    rcases agreed .left with ⟨current, observed⟩
    have ran := (invariant_of_reachable machines reached).run_observed .left
    rw [current, observed] at ran
    rcases wellFormed.exists_state (wellFormed.hasState_run wellFormed.initial_mem ran) with
      ⟨state, _, _, found⟩
    exact ⟨_, (Conversation.verifyTrace_eq_ok_iff wellFormed).mpr
      ⟨final, state, ran, found, rfl⟩, rfl⟩

theorem projection_sound_and_complete_inquiry :
    ∃ machine, Machines .reference .inquiry machine ∧
      ∃ session, Reachable machine session ∧ (∀ side, session.inbox side = []) ∧
        ∀ side, (session.party side).machine.current = "done" ∧
          (session.party side).observed =
            [.select "client" "again", .select "client" "ask",
              .data "client" "server" "text" (some .null)] := by
  rcases projection_sound_and_complete .reference .inquiry _ (ColloqPlan.compile_inquiry _) with
    ⟨⟨machine, machines⟩, equivalent⟩
  refine ⟨machine, machines, (equivalent machine machines _ ?_ "done").mp ⟨_, rfl, rfl⟩⟩
  simp [Frame.Sendable]

/-- Deadlock freedom: unless both machines are complete with nothing in flight, some head is
accepted or some machine can emit; a complete endpoint has no unread envelope. -/
theorem deadlock_freedom (crates : Crates) (conversation : Conversation) (plan : ColloqPlan)
    (compiled : ColloqPlan.compile crates conversation = .ok plan) :
    (∃ machine, Machines crates conversation machine) ∧
      ∀ machine session, Machines crates conversation machine → Reachable machine session →
        ((∀ side, (session.party side).machine.isComplete = some true ∧
            session.inbox side = []) ∨
          (∃ side envelope rest, session.inbox side = envelope :: rest ∧
            ∃ after, (session.party side).machine.accept envelope =
              some (.ok envelope.frame, after)) ∨
          ∃ side, (session.party side).machine.CanEmit) ∧
        ∀ side, (session.party side).machine.isComplete = some true →
          session.inbox side = [] := by
  refine ⟨exists_machines compiled, fun machine session machines reached => ?_⟩
  have invariant := invariant_of_reachable machines reached
  refine ⟨?_, fun side complete => invariant.inbox_eq_nil_of_isComplete complete⟩
  by_cases empty : ∀ side, session.inbox side = []
  · rcases invariant.isComplete_or_canEmit empty with complete | canEmit
    · exact Or.inl fun side => ⟨complete side, empty side⟩
    · exact Or.inr (Or.inr canEmit)
  · rcases not_forall.mp empty with ⟨side, queued⟩
    rcases List.exists_cons_of_ne_nil queued with ⟨envelope, rest, queued⟩
    rcases invariant.accept_head queued with ⟨_, _, _, _, accepted⟩
    exact Or.inr (Or.inl ⟨side, envelope, rest, queued, _, accepted⟩)

theorem deadlock_freedom_inquiry :
    ∃ machine, Machines .reference .inquiry machine ∧
      ∀ session, Reachable machine session → (∀ side, session.inbox side = []) →
        (∀ side, (session.party side).machine.isComplete = some true) ∨
          ∃ side, (session.party side).machine.CanEmit := by
  rcases deadlock_freedom .reference .inquiry _ (ColloqPlan.compile_inquiry _) with
    ⟨⟨machine, machines⟩, progress⟩
  refine ⟨machine, machines, fun session reached empty => ?_⟩
  rcases (progress machine session machines reached).1 with
    complete | ⟨side, envelope, rest, queued, _⟩ | canEmit
  · exact Or.inl fun side => (complete side).1
  · simp [empty side] at queued
  · exact Or.inr canEmit

end Session

end Colloq
