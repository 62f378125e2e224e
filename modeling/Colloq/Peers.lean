import Colloq.Refinement

/-!
# The two peers of a conversation

What the two machines of one compiled conversation share: their roles are the two
roles of the conversation, one for each side, and all their envelopes carry the
same header. An envelope is then no more than a turn-taking message under a seal.
-/

namespace Colloq

open TurnTaking (Side)

variable {crates : Crates} {conversation : Conversation}

/-- The two roles of a well-formed conversation, one for each side. -/
structure Conversation.Sides (conversation : Conversation) (role : Side → String) : Prop where
  wellFormed : conversation.WellFormed
  roles : conversation.roles.map Role.id = [role .left, role .right]

namespace Conversation.Sides

variable {role : Side → String} (sides : conversation.Sides role)

include sides

theorem role_ne : role .right ≠ role .left := by
  have nodup := sides.wellFormed.roleIds_nodup
  rw [sides.roles] at nodup
  simpa [eq_comm] using nodup

theorem hasRole_iff {one : String} : conversation.HasRole one ↔ ∃ side, one = role side := by
  rw [HasRole, sides.roles, List.mem_pair]
  constructor
  · rintro (rfl | rfl)
    · exact ⟨.left, rfl⟩
    · exact ⟨.right, rfl⟩
  · rintro ⟨side, rfl⟩
    cases side with
    | left => exact Or.inl rfl
    | right => exact Or.inr rfl

theorem speaker_eq {side : Side} {frame : Frame} (author : frame.author = some (role side)) :
    (conversation.protocol (role .left)).speaker frame = side := by
  have := sides.role_ne
  cases side <;> simp_all [protocol]

theorem author_ne_iff {side : Side} {frame : Frame} {sender : String}
    (hasRole : conversation.HasRole sender) (author : frame.author = some sender) :
    sender ≠ role side ↔ (conversation.protocol (role .left)).speaker frame = side.other := by
  rcases sides.hasRole_iff.mp hasRole with ⟨one, rfl⟩
  rw [sides.speaker_eq author]
  constructor
  · intro distinct
    exact Side.eq_other_of_ne fun same => distinct (congrArg role same)
  · rintro rfl same
    have := sides.role_ne
    cases side <;> simp_all [Side.other]

/-- A frame on the wire that the graph allows is spoken by the side of its author. -/
theorem next_protocol_iff {id next : String} {frame : Frame} :
    (conversation.protocol (role .left)).next id frame = some next ↔
      ∃ side, frame.author = some (role side) ∧ conversation.next id frame = some next := by
  rw [protocol, Option.ite_none_right_eq_some, Option.isSome_iff_exists]
  constructor
  · rintro ⟨⟨sender, author⟩, allowed⟩
    rcases sides.hasRole_iff.mp (sides.wellFormed.hasRole_author allowed author) with ⟨side, rfl⟩
    exact ⟨side, author, allowed⟩
  · rintro ⟨side, author, allowed⟩
    exact ⟨⟨_, author⟩, allowed⟩

end Conversation.Sides

/-! ## Envelopes as sealed messages -/

def WireEnvelope.message (envelope : WireEnvelope) : TurnTaking.Message String Frame UInt64 where
  state := envelope.state
  stamp := envelope.sequence
  frame := envelope.frame

/-- The envelope of a message in a session of the conversation. -/
def Conversation.seal (crates : Crates) (conversation : Conversation)
    (message : TurnTaking.Message String Frame UInt64) : WireEnvelope where
  colloqWire := wireFormat
  conversation := conversation.module.id
  conversationIdentity := conversationIdentityValidated crates conversation
  state := message.state
  sequence := message.stamp
  frame := message.frame

@[simp]
theorem Conversation.message_seal (message : TurnTaking.Message String Frame UInt64) :
    (conversation.seal crates message).message = message := rfl

theorem Conversation.seal_injective :
    Function.Injective (conversation.seal crates) :=
  Function.LeftInverse.injective message_seal

/-- The machine belongs to a session of the compiled conversation. -/
structure EndpointMachine.Belongs (crates : Crates) (conversation : Conversation) (role : String)
    (machine : EndpointMachine) : Prop where
  executes : machine.Executes conversation
  role_eq : machine.role = role
  identity_eq :
    machine.conversationIdentity = conversationIdentityValidated crates conversation

namespace EndpointMachine.Belongs

variable {role : String} {machine : EndpointMachine}
  (belongs : machine.Belongs crates conversation role)

include belongs

theorem moved {next : String} (hasState : conversation.HasState next) :
    (machine.moved next).Belongs crates conversation role :=
  ⟨belongs.executes.moved hasState, belongs.role_eq, belongs.identity_eq⟩

theorem envelope_eq_seal (frame : Frame) :
    machine.envelope frame =
      conversation.seal crates ⟨machine.current, machine.sequence, frame⟩ := by
  simp only [EndpointMachine.envelope, Conversation.seal, EndpointMachine.conversation,
    belongs.executes.endpoint_eq, belongs.identity_eq]
  rfl

omit belongs in
/-- A side utters, under its seal, the frames that the protocol allows it. -/
theorem perform_eq_ok_iff {roles : Side → String} (sides : conversation.Sides roles)
    {side : Side} (belongs : machine.Belongs crates conversation (roles side)) {action : Action}
    {envelope : WireEnvelope} {after : EndpointMachine} :
    machine.perform action = some (.ok envelope, after) ↔
      ∃ frame next, frame.action = some action ∧
        (conversation.protocol (roles .left)).speaker frame = side ∧
        (conversation.protocol (roles .left)).next machine.current frame = some next ∧
        envelope = conversation.seal crates ⟨machine.current, machine.sequence, frame⟩ ∧
        after = machine.moved next := by
  rw [belongs.executes.perform_eq_ok_iff]
  simp only [belongs.envelope_eq_seal, belongs.role_eq, sides.next_protocol_iff]
  constructor
  · rintro ⟨frame, next, acts, author, allowed, rest⟩
    exact ⟨frame, next, acts, sides.speaker_eq author, ⟨side, author, allowed⟩, rest⟩
  · rintro ⟨frame, next, acts, floor, ⟨one, author, allowed⟩, rest⟩
    rcases (sides.speaker_eq author).symm.trans floor with rfl
    exact ⟨frame, next, acts, author, allowed, rest⟩

omit belongs in
/-- A side hears, under the seal of its place, the frames that the protocol allows the other. -/
theorem accept_eq_ok_iff {roles : Side → String} (sides : conversation.Sides roles)
    {side : Side} (belongs : machine.Belongs crates conversation (roles side))
    {received : WireEnvelope} {frame : Frame} {after : EndpointMachine} :
    machine.accept received = some (.ok frame, after) ↔
      received = conversation.seal crates ⟨machine.current, machine.sequence, frame⟩ ∧
        (conversation.protocol (roles .left)).speaker frame = side.other ∧
        ∃ next, (conversation.protocol (roles .left)).next machine.current frame = some next ∧
          after = machine.moved next := by
  rw [belongs.executes.accept_eq_ok_iff]
  simp only [belongs.envelope_eq_seal, belongs.role_eq, sides.next_protocol_iff]
  apply and_congr_right
  intro _
  constructor
  · rintro ⟨⟨peer, author, distinct⟩, next, allowed, moved⟩
    have hasRole := sides.wellFormed.hasRole_author allowed author
    rcases sides.hasRole_iff.mp hasRole with ⟨one, rfl⟩
    exact ⟨(sides.author_ne_iff hasRole author).mp distinct, next, ⟨one, author, allowed⟩, moved⟩
  · rintro ⟨foreign, next, ⟨one, author, allowed⟩, moved⟩
    have hasRole := sides.hasRole_iff.mpr ⟨one, rfl⟩
    exact ⟨⟨_, author, (sides.author_ne_iff hasRole author).mpr foreign⟩, next, allowed, moved⟩

end EndpointMachine.Belongs

/-! ## The machines of a compiled conversation -/

/-- The machines of the two roles of a conversation, as `for_role` creates them. -/
structure Machines (crates : Crates) (conversation : Conversation)
    (machine : Side → EndpointMachine) : Prop where
  roles : conversation.roles.map Role.id = [(machine .left).role, (machine .right).role]
  created : ∀ side,
    EndpointMachine.forRole crates conversation (machine side).role = .ok (machine side)

namespace Machines

variable {machine : Side → EndpointMachine} (machines : Machines crates conversation machine)

include machines

theorem eq_initialMachine (side : Side) :
    conversation.Compilable ∧ conversation.HasRole (machine side).role ∧
      machine side = conversation.initialMachine crates (machine side).role :=
  Conversation.forRole_eq_ok_iff.mp (machines.created side)

theorem sides : conversation.Sides fun side => (machine side).role where
  wellFormed := (machines.eq_initialMachine .left).1.toWellFormed
  roles := machines.roles

theorem belongs (side : Side) :
    (machine side).Belongs crates conversation (machine side).role := by
  rcases machines.eq_initialMachine side with ⟨compilable, hasRole, initial⟩
  have executes : (conversation.initialMachine crates (machine side).role).Executes conversation :=
    compilable.executes_initialMachine hasRole
  rw [← initial] at executes
  refine ⟨executes, rfl, ?_⟩
  rw [initial]
  rfl

theorem current_eq (side : Side) : (machine side).current = conversation.initial := by
  rw [(machines.eq_initialMachine side).2.2]
  rfl

theorem sequence_eq (side : Side) : (machine side).sequence = 0 := by
  rw [(machines.eq_initialMachine side).2.2]
  rfl

end Machines

/-- The pair of machines of a compiled conversation whose roles are given in order. -/
theorem Conversation.Compilable.machines (compilable : conversation.Compilable)
    (role : Side → String)
    (roles : conversation.roles.map Role.id = [role .left, role .right]) :
    Machines crates conversation fun side => conversation.initialMachine crates (role side) where
  roles := roles
  created side := by
    refine Conversation.forRole_eq_ok_iff.mpr ⟨compilable, ?_, rfl⟩
    exact (Conversation.Sides.mk compilable.toWellFormed roles).hasRole_iff.mpr ⟨side, rfl⟩

theorem exists_machines {plan : ColloqPlan}
    (compiled : ColloqPlan.compile crates conversation = .ok plan) :
    ∃ machine, Machines crates conversation machine := by
  rcases ColloqPlan.compile_eq_ok_iff.mp compiled with ⟨compilable, rfl⟩
  rcases List.length_eq_two.mp compilable.twoRoles with ⟨first, second, roles⟩
  exact ⟨_, compilable.machines (fun side => if side = .left then first.id else second.id)
    (by simp [roles])⟩

/-! ## Machines in step -/

/-- The machine of a role in a state, at a sequence number. -/
def Conversation.machineAt (crates : Crates) (conversation : Conversation)
    (role current : String) (sequence : UInt64) : EndpointMachine :=
  { conversation.initialMachine crates role with current, sequence }

namespace Conversation.Sides

variable {role : Side → String}

theorem belongs_machineAt (sides : conversation.Sides role) (compilable : conversation.Compilable)
    {current : String} (hasState : conversation.HasState current) (side : Side)
    (sequence : UInt64) :
    (conversation.machineAt crates (role side) current sequence).Belongs crates conversation
      (role side) := by
  have hasRole : conversation.HasRole (role side) := sides.hasRole_iff.mpr ⟨side, rfl⟩
  have executes : (conversation.initialMachine crates (role side)).Executes conversation :=
    compilable.executes_initialMachine hasRole
  exact ⟨⟨executes.wellFormed, executes.endpoint_eq, executes.role_mem, hasState⟩, rfl, rfl⟩

/-- What one machine emits, the other one accepts, and they move on together. -/
theorem exchanged (sides : conversation.Sides role) (compilable : conversation.Compilable)
    {current next : String} {side : Side} {frame : Frame} {action : EndpointMachine.Action}
    (sequence : UInt64) (hasState : conversation.HasState current)
    (acts : frame.action = some action) (author : frame.author = some (role side))
    (allowed : conversation.next current frame = some next) :
    (conversation.machineAt crates (role side) current sequence).perform action =
        some (.ok (conversation.seal crates ⟨current, sequence, frame⟩),
          conversation.machineAt crates (role side) next (sequence + 1)) ∧
      (conversation.machineAt crates (role side.other) current sequence).accept
          (conversation.seal crates ⟨current, sequence, frame⟩) =
        some (.ok frame, conversation.machineAt crates (role side.other) next (sequence + 1)) := by
  have floor := sides.speaker_eq author
  have moves := sides.next_protocol_iff.mpr ⟨side, author, allowed⟩
  have own : (conversation.machineAt crates (role side) current sequence).Belongs crates
      conversation (role side) := sides.belongs_machineAt compilable hasState side sequence
  have others : (conversation.machineAt crates (role side.other) current sequence).Belongs crates
      conversation (role side.other) :=
    sides.belongs_machineAt compilable hasState side.other sequence
  refine ⟨?_, ?_⟩
  · exact (EndpointMachine.Belongs.perform_eq_ok_iff sides own).mpr
      ⟨frame, next, acts, floor, moves, rfl, rfl⟩
  · rw [EndpointMachine.Belongs.accept_eq_ok_iff sides others, Side.other_other]
    exact ⟨rfl, floor, next, moves, rfl⟩

end Conversation.Sides

/-- The two sides of the inquiry. -/
def inquiryRole : Side → String
  | .left => "client"
  | .right => "server"

theorem hasRole_inquiryRole (side : Side) : Conversation.inquiry.HasRole (inquiryRole side) := by
  cases side <;> simp [Conversation.HasRole, Conversation.inquiry, inquiryRole]

theorem machines_inquiry : Machines crates .inquiry fun side =>
    Conversation.inquiry.initialMachine crates (inquiryRole side) :=
  Conversation.compilable_inquiry.machines inquiryRole rfl

end Colloq
