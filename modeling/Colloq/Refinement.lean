import Colloq.PlanMachine
import Colloq.Library.TurnTaking

/-!
# The machine refines the global graph

`Conversation.next` is one transition of the global graph, as the trace checker
takes it. A machine that executes a projection emits exactly the frames that the
graph allows to its own role, and accepts exactly those it allows to the peer.
Each operation has one specification here, and no later proof looks into it.
-/

namespace Colloq

namespace Frame

/-- The role that puts the frame on the wire; a fault is only observed. -/
def author : Frame → Option String
  | .data sender .. | .cancel sender .. => some sender
  | .select chooser _ => some chooser
  | .fault .. => none

/-- The action that emits the frame. -/
def action : Frame → Option EndpointMachine.Action
  | .data _ _ _ payload => payload.map .data
  | .select _ label => some (.select label)
  | .cancel .. => some .cancel
  | .fault .. => none

end Frame

/-- A frame that a machine can emit: not a fault, and if it carries data, with a payload. -/
def Frame.Sendable : Frame → Prop
  | .data _ _ _ payload => payload.isSome = true
  | .select .. | .cancel .. => True
  | .fault .. => False

theorem Frame.Sendable.exists_action {frame : Frame} (sendable : frame.Sendable) :
    ∃ action, frame.action = some action := by
  cases frame with
  | data sender receiver message payload =>
      rcases Option.isSome_iff_exists.mp sendable with ⟨value, rfl⟩
      exact ⟨_, rfl⟩
  | fault => exact sendable.elim
  | _ => exact ⟨_, rfl⟩

theorem Frame.Sendable.exists_author {frame : Frame} (sendable : frame.Sendable) :
    ∃ sender, frame.author = some sender := by
  cases frame with
  | fault => exact sendable.elim
  | _ => exact ⟨_, rfl⟩

/-- The role that has the floor at a state. -/
def GlobalState.author : GlobalState → Option String
  | .send _ sender .. | .cancel _ sender .. => some sender
  | .choice _ chooser .. => some chooser
  | .end _ | .fail .. => none

/-- What `verify_trace` reports of a trace that ends at the state. -/
def GlobalState.report (state : GlobalState) (steps : ℕ) (current : String) : TraceReport where
  steps := steps
  finalState := current
  complete := state.isTerminal
  successful := match state with
    | .end _ => true
    | _ => false
  failure := match state with
    | .fail _ failure => some failure
    | _ => none

/-- The frame and the next state of a local action, for the role of the endpoint. -/
def EndpointState.emitFrame (role : String) :
    EndpointState → EndpointMachine.Action → Option (Frame × String)
  | .send _ receiver message next .., .data payload =>
      some (.data role receiver message (some payload), next)
  | .select _ branches _, .select label =>
      branches[label]?.map fun next => (.select role label, next)
  | .sendCancel _ receiver scope next _, .cancel => some (.cancel role receiver scope, next)
  | _, _ => none

section States

variable {roles : StringSet} {state : GlobalState} {frame : Frame} {next role : String}

@[simp]
theorem GlobalState.advance_fault {observer failure : String} :
    state.advance roles (.fault observer failure) =
      if observer ∈ roles then state.failureTarget failure else none := by
  cases state <;> rfl

/-- Only the role that has the floor can author a frame. -/
theorem GlobalState.author_eq_of_advance (advanced : state.advance roles frame = some next)
    {sender : String} (author : frame.author = some sender) : state.author = some sender := by
  cases state <;> cases frame <;>
    simp_all [GlobalState.advance, GlobalState.author, Frame.author]

theorem GlobalState.author_eq_none_iff : state.author = none ↔ state.isTerminal = true := by
  cases state <;> simp [GlobalState.author, GlobalState.isTerminal]

/-- A projected state emits the frames that the global state allows to the role. -/
theorem emitFrame_projectState_iff {action : EndpointMachine.Action} :
    (projectState state role).emitFrame role action = some (frame, next) ↔
      frame.action = some action ∧ frame.author = some role ∧
        state.advance roles frame = some next := by
  cases state with
  | send id sender | choice id sender | cancel id sender =>
      by_cases same : sender = role <;> cases action <;> cases frame <;>
        simp [projectState, same, EndpointState.emitFrame, Frame.action, Frame.author,
          GlobalState.advance] <;> grind
  | «end» | fail =>
      cases frame <;>
        simp [projectState, EndpointState.emitFrame, Frame.author, GlobalState.advance]

end States

namespace Conversation

variable {conversation : Conversation}

/-- A projected state accepts the frames that the global state allows to the other role. -/
theorem WellFormed.acceptFrame_projectState_iff (wellFormed : conversation.WellFormed)
    {state : GlobalState} (member : state ∈ conversation.states) {role : String}
    (hasRole : conversation.HasRole role) {roles : StringSet} {frame : Frame} {next : String} :
    (projectState state role).acceptFrame role frame = some next ↔
      (∃ peer, frame.author = some peer ∧ peer ≠ role) ∧
        state.advance roles frame = some next := by
  have stateWellFormed := wellFormed.states state member
  cases state with
  | send id sender receiver message target deadline onFailure =>
      rcases stateWellFormed with ⟨hasSender, hasReceiver, distinct, _⟩
      have receiverEq := wellFormed.receiver_eq hasSender hasReceiver distinct hasRole
      by_cases same : sender = role <;> cases frame <;>
        simp [projectState, same, EndpointState.acceptFrame, Frame.author,
          GlobalState.advance] <;> grind
  | cancel id sender receiver scope target onFailure =>
      rcases stateWellFormed with ⟨hasSender, hasReceiver, distinct, _⟩
      have receiverEq := wellFormed.receiver_eq hasSender hasReceiver distinct hasRole
      by_cases same : sender = role <;> cases frame <;>
        simp [projectState, same, EndpointState.acceptFrame, Frame.author,
          GlobalState.advance] <;> grind
  | choice id chooser =>
      by_cases same : chooser = role <;> cases frame <;>
        simp [projectState, same, EndpointState.acceptFrame, Frame.author,
          GlobalState.advance] <;> grind
  | «end» | fail =>
      cases frame <;>
        simp [projectState, EndpointState.acceptFrame, Frame.author, GlobalState.advance]

/-- One transition of the global graph. -/
def next (conversation : Conversation) (id : String) (frame : Frame) : Option String :=
  conversation.stateMap[id]?.bind fun state => state.advance conversation.roleSet frame

/-- The state after a list of frames, if all of them are allowed in turn. -/
def run (conversation : Conversation) (id : String) (frames : List Frame) : Option String :=
  frames.foldlM conversation.next id

theorem run_snoc {id last next : String} {frames : List Frame} {frame : Frame}
    (ran : conversation.run id frames = some last)
    (allowed : conversation.next last frame = some next) :
    conversation.run id (frames ++ [frame]) = some next := by
  rw [run] at ran
  simp [run, List.foldlM_append, ran, allowed]

theorem mem_roleSet {role : String} :
    role ∈ conversation.roleSet ↔ conversation.HasRole role := mem_ofList

namespace WellFormed

variable (wellFormed : conversation.WellFormed)

include wellFormed

theorem exists_state {id : String} (hasState : conversation.HasState id) :
    ∃ state ∈ conversation.states, state.id = id ∧ conversation.stateMap[id]? = some state := by
  rcases List.mem_map.mp hasState with ⟨state, member, idEq⟩
  exact ⟨state, member, idEq, (getElem?_stateMap wellFormed.stateIds_nodup).mpr ⟨member, idEq⟩⟩

/-- Every transition ends in a state of the conversation. -/
theorem hasState_next {id next : String} {frame : Frame}
    (allowed : conversation.next id frame = some next) : conversation.HasState next := by
  rcases Option.bind_eq_some_iff.mp allowed with ⟨state, found, advanced⟩
  rcases (getElem?_stateMap wellFormed.stateIds_nodup).mp found with ⟨member, rfl⟩
  refine wellFormed.hasState_of_hasEdge member ?_
  cases state <;> cases frame <;>
    simp only [GlobalState.advance, GlobalState.failureTarget] at advanced <;>
    grind [GlobalState.HasEdge]

/-- A fault leads to the terminal state of its failure. -/
theorem fail_mem_of_next {id observer failure target : String}
    (allowed : conversation.next id (.fault observer failure) = some target) :
    GlobalState.fail target failure ∈ conversation.states := by
  rcases Option.bind_eq_some_iff.mp allowed with ⟨state, found, advanced⟩
  rcases (getElem?_stateMap wellFormed.stateIds_nodup).mp found with ⟨member, rfl⟩
  rw [GlobalState.advance_fault, Option.ite_none_right_eq_some] at advanced
  have stateWellFormed := wellFormed.states state member
  cases state with
  | send =>
      rcases stateWellFormed with ⟨_, _, _, _, _, edges⟩
      exact (edges failure target advanced.2).2
  | choice =>
      rcases stateWellFormed with ⟨_, _, _, edges⟩
      exact (edges failure target advanced.2).2
  | cancel =>
      rcases stateWellFormed with ⟨_, _, _, _, _, edges⟩
      exact (edges failure target advanced.2).2
  | «end» | fail => simp [GlobalState.failureTarget] at advanced

theorem hasRole_floor {state : GlobalState} (member : state ∈ conversation.states)
    {sender : String} (floor : state.author = some sender) : conversation.HasRole sender := by
  have stateWellFormed := wellFormed.states state member
  cases state with
  | send | choice | cancel =>
      rcases Option.some.inj floor with rfl
      exact stateWellFormed.1
  | «end» | fail => simp [GlobalState.author] at floor

theorem hasRole_author {id next sender : String} {frame : Frame}
    (allowed : conversation.next id frame = some next) (author : frame.author = some sender) :
    conversation.HasRole sender := by
  rcases Option.bind_eq_some_iff.mp allowed with ⟨state, found, advanced⟩
  rcases (getElem?_stateMap wellFormed.stateIds_nodup).mp found with ⟨member, _⟩
  exact wellFormed.hasRole_floor member (GlobalState.author_eq_of_advance advanced author)

theorem find?_projectRole (role id : String) :
    ((projectRole conversation role).states.find? fun state => state.id == id) =
      conversation.stateMap[id]?.map fun state => projectState state role := by
  have found : (conversation.states.find? fun state => state.id == id) =
      conversation.stateMap[id]? := by
    symm
    rcases search : conversation.states.find? (fun state => state.id == id) with _ | state
    · rw [search, Option.eq_none_iff_forall_ne_some]
      intro state present
      rcases (getElem?_stateMap wellFormed.stateIds_nodup).mp present with ⟨member, idEq⟩
      simpa [idEq] using List.find?_eq_none.mp search state member
    · rw [search, getElem?_stateMap wellFormed.stateIds_nodup]
      exact ⟨List.mem_of_find?_eq_some search, by simpa using List.find?_some search⟩
  rw [← found, projectRole, List.find?_map]
  congr 2
  funext state
  simp

end WellFormed

theorem traceFrom_eq_ok_iff (wellFormed : conversation.WellFormed) {step : ℕ}
    {current final : String} {frames : List Frame} (hasState : conversation.HasState current) :
    traceFrom conversation.stateMap conversation.roleSet step current frames =
      some (.ok final) ↔ conversation.run current frames = some final := by
  induction frames generalizing step current with
  | nil => simp [traceFrom, run]
  | cons frame frames ih =>
      rcases wellFormed.exists_state hasState with ⟨state, _, _, found⟩
      rcases advanced : state.advance conversation.roleSet frame with _ | target
      · simp [traceFrom, run, next, found, advanced]
      · have allowed : conversation.next current frame = some target := by
          simp [next, found, advanced]
        rw [traceFrom, found]
        simp only [advanced, run, List.foldlM_cons, allowed, Option.bind_eq_bind,
          Option.bind_some]
        exact ih (wellFormed.hasState_next allowed)

theorem WellFormed.hasState_run (wellFormed : conversation.WellFormed) {id final : String}
    {frames : List Frame} (hasState : conversation.HasState id)
    (ran : conversation.run id frames = some final) : conversation.HasState final := by
  induction frames generalizing id with
  | nil =>
      rcases Option.some.inj ran with rfl
      exact hasState
  | cons frame frames ih =>
      rcases Option.bind_eq_some_iff.mp ran with ⟨target, allowed, rest⟩
      exact ih (wellFormed.hasState_next allowed) rest

/-- The checker accepts the traces that the graph allows, and reports on the last state. -/
theorem verifyTrace_eq_ok_iff (wellFormed : conversation.WellFormed) {frames : List Frame}
    {report : TraceReport} :
    verifyTrace conversation frames = some (.ok report) ↔
      ∃ final state, conversation.run conversation.initial frames = some final ∧
        conversation.stateMap[final]? = some state ∧
        report = state.report frames.length final := by
  have traced : ∀ final,
      traceFrom conversation.stateMap conversation.roleSet 0 conversation.initial frames =
          some (.ok final) ↔
        conversation.run conversation.initial frames = some final :=
    fun _ => traceFrom_eq_ok_iff wellFormed wellFormed.initial_mem
  rw [verifyTrace, (validate_eq_ok_iff conversation).mpr wellFormed]
  rcases trace : traceFrom conversation.stateMap conversation.roleSet 0 conversation.initial frames
    with _ | error | final
  · simp only [trace] at traced
    simp [← traced]
  · simp only [trace] at traced
    simp [← traced]
  · have ran := (traced final).mp trace
    rcases wellFormed.exists_state (wellFormed.hasState_run wellFormed.initial_mem ran) with
      ⟨state, _, _, found⟩
    simp only [ran, found, Option.some.injEq, Except.ok.injEq, exists_and_left, exists_eq_left']
    exact eq_comm

/-- Frames on the wire, as a turn-taking protocol between one role and the other. -/
def protocol (conversation : Conversation) (left : String) :
    TurnTaking.Protocol String Frame where
  next id frame := if frame.author.isSome then conversation.next id frame else none
  speaker frame := if frame.author = some left then .left else .right
  turn {id first second afterFirst afterSecond} firstAllowed secondAllowed := by
    simp only [Option.ite_none_right_eq_some] at firstAllowed secondAllowed
    rcases Option.isSome_iff_exists.mp firstAllowed.1 with ⟨firstSender, firstAuthor⟩
    rcases Option.isSome_iff_exists.mp secondAllowed.1 with ⟨secondSender, secondAuthor⟩
    rcases Option.bind_eq_some_iff.mp firstAllowed.2 with ⟨state, found, firstAdvanced⟩
    rcases Option.bind_eq_some_iff.mp secondAllowed.2 with ⟨other, otherFound, secondAdvanced⟩
    rcases Option.some.inj (found.symm.trans otherFound) with rfl
    have firstFloor := GlobalState.author_eq_of_advance firstAdvanced firstAuthor
    have secondFloor := GlobalState.author_eq_of_advance secondAdvanced secondAuthor
    rw [firstAuthor, secondAuthor, ← firstFloor, ← secondFloor]

theorem run_of_run_protocol {left id final : String} {frames : List Frame}
    (ran : (conversation.protocol left).run id frames = some final) :
    conversation.run id frames = some final := by
  induction frames generalizing id with
  | nil => exact ran
  | cons frame frames ih =>
      rcases Option.bind_eq_some_iff.mp ran with ⟨target, allowed, rest⟩
      exact Option.bind_eq_some_iff.mpr
        ⟨target, (Option.ite_none_right_eq_some.mp allowed).2, ih rest⟩

end Conversation

namespace EndpointMachine

/-- The envelope of a frame at the current state. -/
def envelope (machine : EndpointMachine) (frame : Frame) : WireEnvelope where
  colloqWire := wireFormat
  conversation := machine.conversation
  conversationIdentity := machine.conversationIdentity
  state := machine.current
  sequence := machine.sequence
  frame := frame

/-- The machine after a frame that leads to `next`. -/
def moved (machine : EndpointMachine) (next : String) : EndpointMachine :=
  { machine with current := next, sequence := machine.sequence + 1 }

variable {machine : EndpointMachine}

theorem emit_eq (frame : Frame) (next : String) :
    machine.emit frame next = (machine.envelope frame, machine.moved next) := rfl

/-- Whatever is emitted comes from the current state. -/
theorem perform_eq_ok_iff {action : Action} {envelope : WireEnvelope} {after : EndpointMachine} :
    machine.perform action = some (.ok envelope, after) ↔
      ∃ state frame next, machine.state = some state ∧
        state.emitFrame machine.role action = some (frame, next) ∧
        envelope = machine.envelope frame ∧ after = machine.moved next := by
  rcases present : machine.state with _ | state
  · cases action <;> simp [perform, emitData, emitSelect, emitCancel, present]
  · cases action with
    | data payload =>
        cases state <;>
          simp [perform, emitData, present, EndpointState.emitFrame, emit_eq, eq_comm]
    | select label =>
        cases state with
        | select id branches onFailure =>
            rcases declared : branches[label]? with _ | next <;>
              simp [perform, emitSelect, present, EndpointState.emitFrame, emit_eq, declared,
                eq_comm]
        | _ => simp [perform, emitSelect, present, EndpointState.emitFrame]
    | cancel =>
        cases state <;>
          simp [perform, emitCancel, present, EndpointState.emitFrame, emit_eq, eq_comm]

theorem validateEnvelope_eq_ok_iff (received : WireEnvelope) :
    machine.validateEnvelope received = .ok () ↔ received = machine.envelope received.frame := by
  simp only [validateEnvelope, Checked.check_bind_eq_ok_iff, Checked.ensure_eq_ok_iff]
  cases received
  simp [envelope]

/-- Whatever is accepted was sent from the state and at the sequence number of the machine. -/
theorem accept_eq_ok_iff {received : WireEnvelope} {frame : Frame} {after : EndpointMachine} :
    machine.accept received = some (.ok frame, after) ↔
      received = machine.envelope frame ∧
        ∃ state next, machine.state = some state ∧
          state.acceptFrame machine.role frame = some next ∧ after = machine.moved next := by
  have checked := machine.validateEnvelope_eq_ok_iff received
  rcases verdict : machine.validateEnvelope received with error | ⟨⟩
  · simp only [accept, verdict, Option.some.injEq, Prod.mk.injEq, reduceCtorEq, false_and,
      false_iff, not_and]
    rintro rfl
    rw [verdict] at checked
    exact absurd (checked.mpr rfl) (by simp)
  · have genuine := checked.mp verdict
    rcases present : machine.state with _ | state
    · simp [accept, verdict, present]
    · rcases accepted : state.acceptFrame machine.role received.frame with _ | next
      · simp only [accept, verdict, present, accepted, Option.some.injEq, Prod.mk.injEq,
          reduceCtorEq, false_and, false_iff, not_and]
        rintro rfl
        grind [envelope]
      · simp only [accept, verdict, present, accepted, Option.some.injEq, Prod.mk.injEq,
          Except.ok.injEq]
        constructor
        · rintro ⟨rfl, rfl⟩
          exact ⟨genuine, state, next, rfl, accepted, rfl⟩
        · rintro ⟨rfl, _, _, ⟨⟩, accepted', rfl⟩
          rcases Option.some.inj (accepted.symm.trans accepted') with rfl
          exact ⟨rfl, rfl⟩

/-- A rejected action leaves the machine as it was. -/
theorem eq_of_perform_error {action : Action} {error : RuntimeError} {after : EndpointMachine}
    (rejected : machine.perform action = some (.error error, after)) : after = machine := by
  cases action <;> simp only [perform, emitData, emitSelect, emitCancel] at rejected
  all_goals
    repeat' split at rejected
    all_goals simp_all

/-- A rejected envelope leaves the machine as it was. -/
theorem eq_of_accept_error {received : WireEnvelope} {error : RuntimeError}
    {after : EndpointMachine} (rejected : machine.accept received = some (.error error, after)) :
    after = machine := by
  unfold accept at rejected
  repeat' split at rejected
  all_goals simp_all

/-- A failure that is not declared leaves the machine as it was. -/
theorem eq_of_observeFailureAt_error {id failure : String} {error : RuntimeError}
    {after : EndpointMachine}
    (rejected : machine.observeFailureAt id failure = some (.error error, after)) :
    after = machine := by
  unfold observeFailureAt at rejected
  repeat' split at rejected
  all_goals simp_all

/-- The machine has a local action to choose, and every choice that it has succeeds. -/
def CanEmit (machine : EndpointMachine) : Prop :=
  match machine.state with
  | some (.send ..) => ∀ payload, ∃ envelope after,
      machine.emitData payload = some (.ok envelope, after)
  | some (.select _ branches _) => (∃ label, label ∈ branches) ∧
      ∀ label ∈ branches, ∃ envelope after,
        machine.emitSelect label = some (.ok envelope, after)
  | some (.sendCancel ..) => ∃ envelope after, machine.emitCancel = some (.ok envelope, after)
  | _ => False

/-- The machine executes a projection of the conversation, and is at one of its states. -/
structure Executes (machine : EndpointMachine) (conversation : Conversation) : Prop where
  wellFormed : conversation.WellFormed
  endpoint_eq : machine.endpoint = projectRole conversation machine.role
  role_mem : conversation.HasRole machine.role
  current_mem : conversation.HasState machine.current

namespace Executes

variable {conversation : Conversation} (executes : machine.Executes conversation)

include executes

theorem find?_states (id : String) :
    (machine.endpoint.states.find? fun state => state.id == id) =
      conversation.stateMap[id]?.map fun state => projectState state machine.role := by
  rw [executes.endpoint_eq]
  exact executes.wellFormed.find?_projectRole machine.role id

theorem state_eq_of_found {state : GlobalState}
    (found : conversation.stateMap[machine.current]? = some state) :
    machine.state = some (projectState state machine.role) := by
  rw [EndpointMachine.state, executes.find?_states, found]
  rfl

/-- The machine never lacks its current state. -/
theorem state_eq : ∃ state ∈ conversation.states,
    conversation.stateMap[machine.current]? = some state ∧
      machine.state = some (projectState state machine.role) := by
  rcases executes.wellFormed.exists_state executes.current_mem with ⟨state, member, _, found⟩
  exact ⟨state, member, found, executes.state_eq_of_found found⟩

theorem moved {next : String} (hasState : conversation.HasState next) :
    (machine.moved next).Executes conversation :=
  ⟨executes.wellFormed, executes.endpoint_eq, executes.role_mem, hasState⟩

/-- A role emits exactly the frames that the graph allows it. -/
theorem perform_eq_ok_iff {action : Action} {envelope : WireEnvelope} {after : EndpointMachine} :
    machine.perform action = some (.ok envelope, after) ↔
      ∃ frame next, frame.action = some action ∧ frame.author = some machine.role ∧
        conversation.next machine.current frame = some next ∧
        envelope = machine.envelope frame ∧ after = machine.moved next := by
  rcases executes.state_eq with ⟨state, _, found, present⟩
  simp only [EndpointMachine.perform_eq_ok_iff, present, Conversation.next, found,
    Option.bind_some, Option.some.injEq, ← and_assoc,
    ← @emitFrame_projectState_iff conversation.roleSet]
  simp

/-- A role accepts exactly the frames that the graph allows its peer. -/
theorem accept_eq_ok_iff {received : WireEnvelope} {frame : Frame} {after : EndpointMachine} :
    machine.accept received = some (.ok frame, after) ↔
      received = machine.envelope frame ∧
        (∃ peer, frame.author = some peer ∧ peer ≠ machine.role) ∧
        ∃ next, conversation.next machine.current frame = some next ∧
          after = machine.moved next := by
  rcases executes.state_eq with ⟨state, member, found, present⟩
  have projected : ∀ next, (projectState state machine.role).acceptFrame machine.role frame =
      some next ↔ (∃ peer, frame.author = some peer ∧ peer ≠ machine.role) ∧
        state.advance conversation.roleSet frame = some next :=
    fun _ => executes.wellFormed.acceptFrame_projectState_iff member executes.role_mem
  simp only [EndpointMachine.accept_eq_ok_iff, present, Option.some.injEq, exists_and_left,
    exists_eq_left', projected, Conversation.next, found, Option.bind_some, and_assoc]

/-- A fault leads where the graph leads. -/
theorem observeFailureAt_eq_ok_iff {id failure : String} {frame : Frame}
    {after : EndpointMachine} :
    machine.observeFailureAt id failure = some (.ok frame, after) ↔
      frame = .fault machine.role failure ∧
        ∃ next, conversation.next id (.fault machine.role failure) = some next ∧
          after = { machine with
            current := next
            sequence := if machine.current = id then machine.sequence + 1
              else machine.sequence } := by
  have hasRole := Conversation.mem_roleSet.mpr executes.role_mem
  simp only [observeFailureAt, executes.find?_states, Conversation.next]
  rcases found : conversation.stateMap[id]? with _ | state
  · simp
  · rcases target : state.failureTarget failure with _ | next
    · simp [target]
    · simp only [target, hasRole, Option.map_some, failureTarget_projectState,
        Option.bind_some, GlobalState.advance_fault, if_true, Option.some.injEq, Prod.mk.injEq,
        Except.ok.injEq, exists_eq_left', beq_iff_eq]
      exact and_congr eq_comm eq_comm

/-- A failure that is not observed is one that the graph does not declare. -/
theorem next_fault_eq_none (id failure : String)
    (unobserved : ∀ frame after,
      machine.observeFailureAt id failure ≠ some (.ok frame, after)) :
    conversation.next id (.fault machine.role failure) = none := by
  rcases allowed : conversation.next id (.fault machine.role failure) with _ | next
  · rfl
  · exact (unobserved _ _
      (executes.observeFailureAt_eq_ok_iff.mpr ⟨rfl, next, allowed, rfl⟩)).elim

/-- The machine judges its state as the trace checker does. -/
theorem report_eq {state : GlobalState}
    (found : conversation.stateMap[machine.current]? = some state) (steps : ℕ) :
    machine.isComplete = some (state.report steps machine.current).complete ∧
      machine.isSuccessful = some (state.report steps machine.current).successful ∧
      machine.failure = some (state.report steps machine.current).failure := by
  have present := executes.state_eq_of_found found
  rw [isComplete, isSuccessful, failure, present]
  cases state <;> simp only [projectState] <;> (try split_ifs) <;> exact ⟨rfl, rfl, rfl⟩

/-- Whoever has the floor can act. -/
theorem canEmit {state : GlobalState}
    (found : conversation.stateMap[machine.current]? = some state)
    (floor : state.author = some machine.role) : machine.CanEmit := by
  have present := executes.state_eq_of_found found
  rcases (Conversation.getElem?_stateMap executes.wellFormed.stateIds_nodup).mp found with
    ⟨member, _⟩
  have stateWellFormed := executes.wellFormed.states state member
  cases state with
  | send | cancel =>
      rcases Option.some.inj floor with rfl
      simp [CanEmit, present, projectState, emitData, emitCancel, emit_eq]
  | choice id chooser branches onFailure =>
      rcases Option.some.inj floor with rfl
      rcases stateWellFormed with ⟨_, twoBranches, _⟩
      simp only [CanEmit, present, projectState, if_true, emitSelect, emit_eq]
      refine ⟨?_, fun label declared => ?_⟩
      · by_contra! none
        have size := Std.ExtTreeMap.eq_empty_iff_size_eq_zero.mp
          (Std.ExtTreeMap.eq_empty_iff_forall_not_mem.mpr none)
        omega
      · rw [Std.ExtTreeMap.getElem?_eq_some_getElem declared]
        exact ⟨_, _, rfl⟩
  | «end» | fail => simp [GlobalState.author] at floor

end Executes

end EndpointMachine

/-! ## Machines of a compiled conversation -/

namespace Conversation

variable (crates : Crates) (conversation : Conversation)

def preparedPlan : PreparedPlan where
  conversation := conversation.module.id
  conversationIdentity := conversationIdentityValidated crates conversation
  planIdentity := (conversation.compiledPlan crates).planIdentity
  endpoints := ColloqPlan.sortEndpoints (projectValidated conversation)
  wire := conversation.compiledWire

/-- The machine of a role before its first action. -/
def initialMachine (role : String) : EndpointMachine where
  endpoint := projectRole conversation role
  conversationIdentity := conversationIdentityValidated crates conversation
  planIdentity := (conversation.compiledPlan crates).planIdentity
  current := conversation.initial
  sequence := 0

variable {crates conversation}

theorem preparedPlan_compile_eq_ok_iff {plan : PreparedPlan} :
    PreparedPlan.compile crates conversation = .ok plan ↔
      conversation.Compilable ∧ plan = conversation.preparedPlan crates := by
  simp only [PreparedPlan.compile, Checked.bind_eq_ok_iff, ColloqPlan.compile_eq_ok_iff]
  constructor
  · rintro ⟨_, ⟨compilable, rfl⟩, prepared⟩
    exact ⟨compilable, (Except.ok.inj prepared).symm⟩
  · rintro ⟨compilable, rfl⟩
    exact ⟨_, ⟨compilable, rfl⟩, rfl⟩

theorem mem_endpoints_preparedPlan {endpoint : Endpoint} :
    endpoint ∈ (conversation.preparedPlan crates).endpoints ↔
      ∃ role, conversation.HasRole role ∧ endpoint = projectRole conversation role := by
  rw [preparedPlan, (sortEndpoints_perm _).mem_iff, projectValidated, List.mem_map]
  constructor
  · rintro ⟨role, member, rfl⟩
    exact ⟨role.id, List.mem_map_of_mem member, rfl⟩
  · rintro ⟨_, hasRole, rfl⟩
    rcases List.mem_map.mp hasRole with ⟨role, member, rfl⟩
    exact ⟨role, member, rfl⟩

theorem endpoint_preparedPlan_eq_some_iff {role : String} {endpoint : Endpoint} :
    (conversation.preparedPlan crates).endpoint role = some endpoint ↔
      conversation.HasRole role ∧ endpoint = projectRole conversation role := by
  constructor
  · intro found
    rcases mem_endpoints_preparedPlan.mp (List.mem_of_find?_eq_some found) with
      ⟨other, hasRole, rfl⟩
    obtain rfl : other = role := by simpa [projectRole] using List.find?_some found
    exact ⟨hasRole, rfl⟩
  · rintro ⟨hasRole, rfl⟩
    have present : projectRole conversation role ∈ (conversation.preparedPlan crates).endpoints :=
      mem_endpoints_preparedPlan.mpr ⟨role, hasRole, rfl⟩
    rcases found : (conversation.preparedPlan crates).endpoint role with _ | endpoint
    · have := List.find?_eq_none.mp found _ present
      simp [projectRole] at this
    · rcases mem_endpoints_preparedPlan.mp (List.mem_of_find?_eq_some found) with ⟨other, _, rfl⟩
      obtain rfl : other = role := by simpa [projectRole] using List.find?_some found
      rfl

theorem fromPlan_preparedPlan_eq_ok_iff {role : String} {machine : EndpointMachine} :
    EndpointMachine.fromPlan (conversation.preparedPlan crates) role = .ok machine ↔
      conversation.HasRole role ∧ machine = conversation.initialMachine crates role := by
  have lookup : ∀ endpoint, (conversation.preparedPlan crates).endpoint role = some endpoint ↔
      conversation.HasRole role ∧ endpoint = projectRole conversation role :=
    fun _ => endpoint_preparedPlan_eq_some_iff
  rw [EndpointMachine.fromPlan]
  rcases found : (conversation.preparedPlan crates).endpoint role with _ | endpoint
  · have missing := lookup (projectRole conversation role)
    simp only [found, reduceCtorEq, false_iff, and_true] at missing
    simp [missing]
  · rcases (lookup endpoint).mp found with ⟨hasRole, rfl⟩
    simp only [Except.ok.injEq, hasRole, true_and]
    exact eq_comm

theorem forRole_eq_ok_iff {role : String} {machine : EndpointMachine} :
    EndpointMachine.forRole crates conversation role = .ok machine ↔
      conversation.Compilable ∧ conversation.HasRole role ∧
        machine = conversation.initialMachine crates role := by
  simp only [EndpointMachine.forRole, Checked.bind_eq_ok_iff, mapError_eq_ok_iff,
    preparedPlan_compile_eq_ok_iff]
  constructor
  · rintro ⟨_, ⟨compilable, rfl⟩, created⟩
    exact ⟨compilable, fromPlan_preparedPlan_eq_ok_iff.mp created⟩
  · rintro ⟨compilable, created⟩
    exact ⟨_, ⟨compilable, rfl⟩, fromPlan_preparedPlan_eq_ok_iff.mpr created⟩

theorem Compilable.executes_initialMachine (compilable : conversation.Compilable)
    {role : String} (hasRole : conversation.HasRole role) :
    (conversation.initialMachine crates role).Executes conversation where
  wellFormed := compilable.toWellFormed
  endpoint_eq := rfl
  role_mem := hasRole
  current_mem := compilable.initial_mem

/-- A machine of the compiled plan, at a state of the conversation. -/
theorem Compilable.executes_of_runs (compilable : conversation.Compilable)
    {machine : EndpointMachine} (runs : machine.Runs (conversation.preparedPlan crates))
    (hasState : conversation.HasState machine.current) : machine.Executes conversation := by
  rcases mem_endpoints_preparedPlan.mp runs.endpoint_mem with ⟨role, hasRole, endpointEq⟩
  have sameRole : machine.role = role := by
    rw [EndpointMachine.role, endpointEq]
    rfl
  rw [← sameRole] at hasRole endpointEq
  exact ⟨compilable.toWellFormed, endpointEq, hasRole, hasState⟩

end Conversation

end Colloq
