import Colloq.JsonText
import Colloq.Peers
import Colloq.Library.Replay

/-!
# Sessions over a replaying network

The network keeps every envelope of the session and may deliver any of them to
either machine, in any order and any number of times; either machine may observe
a declared failure at any time. Up to 2^64 envelopes the sequence numbers do not
repeat, and what a machine has accepted is a prefix of what the other has emitted.
-/

namespace Colloq

open TurnTaking

variable {crates : Crates} {conversation : Conversation}

/-- A machine with the envelopes it has emitted and accepted so far. -/
structure Peer where
  machine : EndpointMachine
  emitted : List WireEnvelope
  accepted : List WireEnvelope

/-- The peer after `accept` has returned. -/
def Peer.delivered (peer : Peer) (envelope : WireEnvelope) (machine : EndpointMachine) :
    Except RuntimeError Frame → Peer
  | .ok _ => { peer with machine, accepted := peer.accepted ++ [envelope] }
  | .error _ => { peer with machine }

@[simp]
theorem Peer.emitted_delivered (peer : Peer) (envelope : WireEnvelope)
    (machine : EndpointMachine) (result : Except RuntimeError Frame) :
    (peer.delivered envelope machine result).emitted = peer.emitted := by
  cases result <;> rfl

structure Network where
  peer : Side → Peer

namespace Network

def start (machine : Side → EndpointMachine) : Network where
  peer side := { machine := machine side, emitted := [], accepted := [] }

/-- The number of envelopes in the session. -/
def emittedCount (network : Network) : ℕ :=
  (network.peer .left).emitted.length + (network.peer .right).emitted.length

/-- A machine performs an action, receives any envelope of the session, or observes a failure
that is declared at some state. -/
inductive Step : Network → Network → Prop where
  | emit {network : Network} (side : Side) {action : EndpointMachine.Action}
      {envelope : WireEnvelope} {machine : EndpointMachine}
      (performed : (network.peer side).machine.perform action = some (.ok envelope, machine)) :
      Step network
        { peer := Function.update network.peer side
            { network.peer side with
              machine, emitted := (network.peer side).emitted ++ [envelope] } }
  | deliver {network : Network} (side sender : Side) {envelope : WireEnvelope}
      {result : Except RuntimeError Frame} {machine : EndpointMachine}
      (kept : envelope ∈ (network.peer sender).emitted)
      (returned : (network.peer side).machine.accept envelope = some (result, machine)) :
      Step network
        { peer := Function.update network.peer side
            ((network.peer side).delivered envelope machine result) }
  | fail {network : Network} (side : Side) {id failure : String} {fault : Frame}
      {machine : EndpointMachine}
      (observed : (network.peer side).machine.observeFailureAt id failure =
        some (.ok fault, machine)) :
      Step network
        { peer := Function.update network.peer side { network.peer side with machine } }

def Reachable (machine : Side → EndpointMachine) : Network → Prop :=
  Relation.ReflTransGen Step (start machine)

/-- The sequence numbers of the first 2^64 envelopes are distinct. -/
theorem stamps_injOn :
    Set.InjOn (fun count => (· + 1)^[count] (0 : UInt64)) (Set.Iio (2 ^ 64)) := by
  have stamp : ∀ count, (· + 1)^[count] (0 : UInt64) = UInt64.ofNat count := by
    intro count
    induction count with
    | zero => rfl
    | succ count ih =>
        rw [Function.iterate_succ_apply', ih]
        simp
  intro first firstFits second secondFits same
  simp only [stamp] at same
  have sameNat := congrArg UInt64.toNat same
  rwa [UInt64.toNat_ofNat_of_lt' firstFits, UInt64.toNat_ofNat_of_lt' secondFits] at sameNat

/-- A complete machine neither emits nor accepts; any other is where its transcript has led. -/
def Located (conversation : Conversation) (left : String)
    (transcript : List (Message String Frame UInt64)) (machine : EndpointMachine) :
    Prop :=
  Transcript (conversation.protocol left) (· + 1) conversation.initial 0 transcript
      machine.current machine.sequence ∨
    ∃ failure, GlobalState.fail machine.current failure ∈ conversation.states

/-- A machine that can still send or receive is where its transcript has led. -/
theorem Located.transcript {role : Side → String} (sides : conversation.Sides role)
    {messages : List (Message String Frame UInt64)} {machine : EndpointMachine}
    (located : Located conversation (role .left) messages machine) {frame : Frame}
    {next : String}
    (allowed : (conversation.protocol (role .left)).next machine.current frame = some next) :
    Transcript (conversation.protocol (role .left)) (· + 1) conversation.initial 0 messages
      machine.current machine.sequence := by
  rcases located with here | ⟨failure, failed⟩
  · exact here
  · rcases sides.next_protocol_iff.mp allowed with ⟨side, author, allowed⟩
    rcases Option.bind_eq_some_iff.mp allowed with ⟨state, found, advanced⟩
    have failedAt := (Conversation.getElem?_stateMap sides.wellFormed.stateIds_nodup).mpr
      ⟨failed, rfl⟩
    rcases Option.some.inj (failedAt.symm.trans found) with rfl
    have floor := GlobalState.author_eq_of_advance advanced author
    simp [GlobalState.author] at floor

/-- The transcript of one side explains what it has emitted and accepted. -/
structure Explained (crates : Crates) (conversation : Conversation) (role : Side → String)
    (side : Side) (messages : List (Message String Frame UInt64)) (peer : Peer) : Prop where
  belongs : peer.machine.Belongs crates conversation (role side)
  located : Located conversation (role .left) messages peer.machine
  emitted : peer.emitted =
    (uttered (conversation.protocol (role .left)) side messages).map (conversation.seal crates)
  accepted : peer.accepted =
    (heard (conversation.protocol (role .left)) side messages).map (conversation.seal crates)

structure Invariant (crates : Crates) (conversation : Conversation) (role : Side → String)
    (transcript : Side → List (Message String Frame UInt64)) (network : Network) : Prop where
  sides : conversation.Sides role
  comparable : Comparable (conversation.protocol (role .left)) (· + 1) conversation.initial 0
    transcript
  explained : ∀ side, Explained crates conversation role side (transcript side)
    (network.peer side)

namespace Invariant

variable {role : Side → String} {transcript : Side → List (Message String Frame UInt64)}
  {network after : Network}
  (invariant : Invariant crates conversation role transcript network)

include invariant

theorem belongs_moved {side : Side} {frame : Frame} {next : String}
    (allowed : (conversation.protocol (role .left)).next (network.peer side).machine.current
      frame = some next) :
    ((network.peer side).machine.moved next).Belongs crates conversation (role side) := by
  rcases invariant.sides.next_protocol_iff.mp allowed with ⟨_, _, allowed⟩
  exact (invariant.explained side).belongs.moved (invariant.sides.wellFormed.hasState_next allowed)

/-- A change on one side. -/
theorem update {side : Side} {peer : Peer} {messages : List (Message String Frame UInt64)}
    (comparable : Comparable (conversation.protocol (role .left)) (· + 1) conversation.initial 0
      (Function.update transcript side messages))
    (explained : Explained crates conversation role side messages peer) :
    Invariant crates conversation role (Function.update transcript side messages)
      { peer := Function.update network.peer side peer } := by
  refine ⟨invariant.sides, comparable, fun one => ?_⟩
  by_cases same : one = side
  · subst same
    simpa only [Function.update_self] using explained
  · simpa only [Function.update_of_ne same] using invariant.explained one

/-- A transcript is no longer than the session. -/
theorem length_le (side : Side) : (transcript side).length ≤ network.emittedCount := by
  have bound := invariant.comparable.length_le side
  rwa [emittedCount, (invariant.explained .left).emitted, (invariant.explained .right).emitted,
    List.length_map, List.length_map]

/-- A step keeps the two parties on comparable transcripts. -/
theorem step (few : network.emittedCount < 2 ^ 64) (step : Step network after) :
    ∃ transcript, Invariant crates conversation role transcript after := by
  cases step with
  | emit side performed =>
      have explained := invariant.explained side
      obtain ⟨frame, next, _, floor, allowed, rfl, rfl⟩ :=
        (EndpointMachine.Belongs.perform_eq_ok_iff invariant.sides explained.belongs).mp performed
      have here := explained.located.transcript invariant.sides allowed
      refine ⟨_, invariant.update (invariant.comparable.utter here floor allowed)
        ⟨invariant.belongs_moved allowed, Or.inl (here.snoc allowed), ?_, ?_⟩⟩
      · rw [uttered_utter floor, List.map_append, explained.emitted]
        rfl
      · rw [heard_utter floor, explained.accepted]
  | @deliver side sender envelope result _ kept returned =>
      have explained := invariant.explained side
      cases result with
      | error error =>
          rcases EndpointMachine.eq_of_accept_error returned with rfl
          refine ⟨Function.update transcript side (transcript side),
            invariant.update ?_ explained⟩
          rw [Function.update_eq_self]
          exact invariant.comparable
      | ok frame =>
          rcases (EndpointMachine.Belongs.accept_eq_ok_iff invariant.sides explained.belongs).mp
              returned with ⟨rfl, foreign, next, allowed, rfl⟩
          have here := explained.located.transcript invariant.sides allowed
          -- The machine's own envelopes are spoken by its own side.
          rw [(invariant.explained sender).emitted] at kept
          rcases List.mem_map.mp kept with ⟨message, uttered, sealed⟩
          rcases Conversation.seal_injective sealed with rfl
          rcases mem_uttered.mp uttered with ⟨member, spoken⟩
          rcases spoken.symm.trans foreign with rfl
          have fits : ∀ one, (transcript one).length < 2 ^ 64 := fun one =>
            (invariant.length_le one).trans_lt few
          refine ⟨_, invariant.update
            (invariant.comparable.hear here member allowed stamps_injOn fits)
            ⟨invariant.belongs_moved allowed, Or.inl (here.snoc allowed), ?_, ?_⟩⟩
          · rw [Peer.emitted_delivered, uttered_hear foreign, explained.emitted]
          · rw [heard_hear foreign, List.map_append, ← explained.accepted]
            rfl
  | fail side observed =>
      have explained := invariant.explained side
      have executes := explained.belongs.executes
      rcases executes.observeFailureAt_eq_ok_iff.mp observed with ⟨rfl, next, allowed, rfl⟩
      have hasState := executes.wellFormed.hasState_next allowed
      have failed := executes.wellFormed.fail_mem_of_next allowed
      refine ⟨Function.update transcript side (transcript side), invariant.update ?_
        ⟨⟨⟨executes.wellFormed, executes.endpoint_eq, executes.role_mem, hasState⟩,
          explained.belongs.role_eq, explained.belongs.identity_eq⟩, Or.inr ⟨_, failed⟩,
          explained.emitted, explained.accepted⟩⟩
      rw [Function.update_eq_self]
      exact invariant.comparable

end Invariant

theorem Step.emittedCount_le {network after : Network} (step : Step network after) :
    network.emittedCount ≤ after.emittedCount := by
  cases step with
  | emit side _ | deliver side _ _ _ | fail side _ =>
      cases side <;> simp [emittedCount, Function.update]

section Machines

variable {machine : Side → EndpointMachine} {network : Network}
  (machines : Machines crates conversation machine)

include machines

theorem invariant_start : Invariant crates conversation (fun side => (machine side).role)
    (fun _ => []) (start machine) where
  sides := machines.sides
  comparable := ⟨fun _ => ⟨_, _, .nil⟩, .left, [], rfl, by simp⟩
  explained side := by
    refine ⟨machines.belongs side, Or.inl ?_, rfl, rfl⟩
    rw [start, machines.current_eq, machines.sequence_eq]
    exact .nil

/-- The invariant holds as long as the sequence numbers have not wrapped. -/
theorem invariant_of_reachable (reached : Reachable machine network)
    (few : network.emittedCount < 2 ^ 64) :
    ∃ transcript, Invariant crates conversation (fun side => (machine side).role) transcript
      network := by
  induction reached with
  | refl => exact ⟨_, invariant_start machines⟩
  | tail _ step ih =>
      have fewBefore := step.emittedCount_le.trans_lt few
      rcases ih fewBefore with ⟨transcript, invariant⟩
      exact invariant.step fewBefore step

end Machines

/-- Integrity: while fewer than 2^64 envelopes have been emitted in the session, what a machine
has accepted is a prefix of what the other has emitted. -/
theorem delivery_integrity (crates : Crates) (conversation : Conversation) (plan : ColloqPlan)
    (compiled : ColloqPlan.compile crates conversation = .ok plan) :
    (∃ machine, Machines crates conversation machine) ∧
      ∀ machine network, Machines crates conversation machine → Reachable machine network →
        network.emittedCount < 2 ^ 64 → ∀ side,
          (network.peer side).accepted <+: (network.peer side.other).emitted := by
  refine ⟨exists_machines compiled, fun machine network machines reached few side => ?_⟩
  rcases invariant_of_reachable machines reached few with ⟨transcript, invariant⟩
  rw [(invariant.explained side).accepted, (invariant.explained side.other).emitted]
  exact (invariant.comparable.heard_prefix side).map _

theorem delivery_integrity_inquiry :
    ∃ machine, Machines .reference .inquiry machine ∧
      ∀ network, Reachable machine network → network.emittedCount < 2 ^ 64 → ∀ side,
        (network.peer side).accepted <+: (network.peer side.other).emitted := by
  rcases delivery_integrity .reference .inquiry _ (ColloqPlan.compile_inquiry _) with
    ⟨⟨machine, machines⟩, integrity⟩
  exact ⟨machine, machines, fun network => integrity machine network machines⟩

/-! ## When the sequence numbers repeat -/

section Wrap

/-- The machine of a side when `again` has been selected that many times. -/
def inquiryMachine (rounds : ℕ) (side : Side) : EndpointMachine :=
  { Conversation.inquiry.initialMachine .reference (inquiryRole side) with
    sequence := .ofNat rounds }

def again (round : ℕ) : WireEnvelope :=
  Conversation.inquiry.seal .reference ⟨"offer", .ofNat round, .select "client" "again"⟩

/-- So many rounds were selected by the client, and so many of them accepted by the server. -/
def afterRounds (selected accepted : ℕ) : Network where
  peer
    | .left => { machine := inquiryMachine selected .left, accepted := []
                 emitted := (List.range selected).map again }
    | .right => { machine := inquiryMachine accepted .right, emitted := []
                  accepted := (List.range accepted).map again }

theorem executes_inquiryMachine (rounds : ℕ) (side : Side) :
    (inquiryMachine rounds side).Executes .inquiry where
  wellFormed := Conversation.compilable_inquiry.toWellFormed
  endpoint_eq := rfl
  role_mem := hasRole_inquiryRole side
  current_mem := Conversation.compilable_inquiry.initial_mem

theorem moved_inquiryMachine (rounds : ℕ) (side : Side) :
    (inquiryMachine rounds side).moved "offer" = inquiryMachine (rounds + 1) side := by
  simp [inquiryMachine, EndpointMachine.moved, Conversation.initialMachine, Conversation.inquiry]

theorem next_again :
    Conversation.inquiry.next "offer" (.select "client" "again") = some "offer" := by
  rfl

theorem select_again (rounds : ℕ) :
    (inquiryMachine rounds .left).perform (.select "again") =
      some (.ok (again rounds), inquiryMachine (rounds + 1) .left) :=
  (executes_inquiryMachine rounds .left).perform_eq_ok_iff.mpr
    ⟨.select "client" "again", "offer", rfl, rfl, next_again, rfl, (moved_inquiryMachine _ _).symm⟩

/-- The server accepts any round that has its sequence number. -/
theorem accept_again {rounds round : ℕ} (same : UInt64.ofNat round = .ofNat rounds) :
    (inquiryMachine rounds .right).accept (again round) =
      some (.ok (.select "client" "again"), inquiryMachine (rounds + 1) .right) := by
  refine (executes_inquiryMachine rounds .right).accept_eq_ok_iff.mpr
    ⟨?_, ⟨"client", rfl, ?_⟩, "offer", next_again, (moved_inquiryMachine _ _).symm⟩
  · rw [again, same]
    rfl
  · simp [inquiryMachine, EndpointMachine.role, Conversation.initialMachine, projectRole,
      inquiryRole]

theorem step_select (selected accepted : ℕ) :
    Step (afterRounds selected accepted) (afterRounds (selected + 1) accepted) := by
  have emitted : Step (afterRounds selected accepted) _ := .emit .left (select_again selected)
  convert emitted using 1
  simp only [afterRounds, Network.mk.injEq]
  funext side
  cases side with
  | left => simp [List.range_succ]
  | right => simp

/-- The server accepts an envelope of the session that has its sequence number. -/
theorem step_accept {selected accepted round : ℕ} (kept : round < selected)
    (same : UInt64.ofNat round = .ofNat accepted) :
    Step (afterRounds selected accepted)
      { peer := Function.update (afterRounds selected accepted).peer .right
          { machine := inquiryMachine (accepted + 1) .right, emitted := []
            accepted := (List.range accepted).map again ++ [again round] } } := by
  have member : again round ∈ ((afterRounds selected accepted).peer .left).emitted :=
    List.mem_map_of_mem (List.mem_range.mpr kept)
  exact .deliver .right .left member (accept_again same)

theorem reachable_afterRounds (rounds : ℕ) :
    Reachable (inquiryMachine 0) (afterRounds rounds rounds) := by
  induction rounds with
  | zero =>
      have started : afterRounds 0 0 = start (inquiryMachine 0) := by
        simp only [afterRounds, start, Network.mk.injEq]
        funext side
        cases side <;> rfl
      rw [started]
      exact .refl
  | succ rounds ih =>
      have accepted := @step_accept (rounds + 1) rounds rounds (by omega) rfl
      refine (ih.tail (step_select rounds rounds)).tail ?_
      convert accepted using 1
      simp only [afterRounds, Network.mk.injEq]
      funext side
      cases side with
      | left => simp
      | right => simp [List.range_succ]

/-- When the sequence number is zero again, the first round is accepted once more. -/
theorem exists_redelivered {rounds : ℕ} (some : 0 < rounds) (wrapped : UInt64.ofNat rounds = 0) :
    ∃ network, Reachable (inquiryMachine 0) network ∧
      ¬(network.peer .right).accepted <+: (network.peer .left).emitted := by
  refine ⟨_, (reachable_afterRounds rounds).tail (step_accept some wrapped.symm), ?_⟩
  intro integrity
  have longer := integrity.length_le
  simp [afterRounds] at longer

/-- Without a bound on the length of the session an envelope can be accepted twice. -/
theorem integrity_fails_beyond_wrap :
    ¬∀ (crates : Crates) (conversation : Conversation) (plan : ColloqPlan),
      ColloqPlan.compile crates conversation = .ok plan →
      ∀ machine network, Machines crates conversation machine → Reachable machine network →
        ∀ side, (network.peer side).accepted <+: (network.peer side.other).emitted := by
  intro integrity
  rcases @exists_redelivered (2 ^ 64) (by decide) (by decide) with ⟨network, reached, broken⟩
  exact broken (integrity _ _ _ (ColloqPlan.compile_inquiry _) _ network machines_inquiry reached
    .right)

end Wrap

end Network

end Colloq
