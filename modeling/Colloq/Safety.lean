import Colloq.JsonText
import Colloq.PlanMachine
import Colloq.Refinement

/-!
# Machines of a verified plan stay in their graph

Nothing is assumed of the plan but that the verifier accepted it. Every call of a
public operation then either moves the machine along one edge of its state or
leaves it alone, and no call meets a state that the endpoint does not have.
-/

namespace Colloq

namespace EndpointMachine

/-- A call of `emit_data`, `emit_select`, `emit_cancel`, `accept` or `observe_failure`. -/
inductive Call where
  | perform (action : Action)
  | accept (envelope : WireEnvelope)
  | observeFailure (failure : String)

/-- Whether a call succeeded, and the machine after it. -/
def call (machine : EndpointMachine) : Call → Outcome Unit
  | .perform action => (machine.perform action).map (Prod.map (Except.map fun _ => ()) id)
  | .accept envelope => (machine.accept envelope).map (Prod.map (Except.map fun _ => ()) id)
  | .observeFailure failure =>
      (machine.observeFailure failure).map (Prod.map (Except.map fun _ => ()) id)

/-- The machine after a list of calls, of which any may fail. -/
def calls (machine : EndpointMachine) (calls : List Call) : Option EndpointMachine :=
  calls.foldlM (fun machine call => (machine.call call).map Prod.snd) machine

end EndpointMachine

namespace EndpointState

/-- The edge `next` of the states that have one. -/
def nextTarget : EndpointState → Option String
  | .send _ _ _ next .. | .receive _ _ _ next .. | .sendCancel _ _ _ next _
  | .receiveCancel _ _ _ next _ => some next
  | .select .. | .branch .. | .end _ | .fail .. => none

/-- The edge of a label, in the states that have branches. -/
def branchTarget : EndpointState → String → Option String
  | .select _ branches _, label | .branch _ _ branches _, label => branches[label]?
  | _, _ => none

/-- The declared edges along which a call can move. -/
def Edge (state : EndpointState) (target : String) : EndpointMachine.Call → Prop
  | .observeFailure failure => state.failureTarget failure = some target
  | .perform _ | .accept _ =>
      state.nextTarget = some target ∨ ∃ label, state.branchTarget label = some target

def isTerminal : EndpointState → Bool
  | .end _ | .fail .. => true
  | _ => false

variable {state : EndpointState} {target : String} {call : EndpointMachine.Call}

/-- The successors that the verifier checks cover every edge. -/
theorem Edge.mem_endpointSuccessors (edge : state.Edge target call) :
    target ∈ endpointSuccessors state := by
  cases state <;> cases call <;>
    simp_all [Edge, nextTarget, branchTarget, failureTarget, endpointSuccessors] <;>
    grind

theorem Edge.isTerminal_eq_false (edge : state.Edge target call) :
    state.isTerminal = false := by
  cases state <;> cases call <;>
    simp_all [Edge, nextTarget, branchTarget, failureTarget, isTerminal]

theorem edge_of_emitFrame {role : String} {action : EndpointMachine.Action} {frame : Frame}
    (emitted : state.emitFrame role action = some (frame, target)) :
    state.Edge target (.perform action) := by
  cases state <;> cases action <;>
    simp_all [emitFrame, Edge, nextTarget, branchTarget]
  grind

theorem edge_of_acceptFrame {role : String} {envelope : WireEnvelope}
    (accepted : state.acceptFrame role envelope.frame = some target) :
    state.Edge target (.accept envelope) := by
  rcases envelope with ⟨_, _, _, _, _, frame⟩
  cases state <;> cases frame <;>
    simp_all [acceptFrame, Edge, nextTarget, branchTarget]
  grind

end EndpointState

namespace EndpointMachine

variable {machine after : EndpointMachine} {state : EndpointState}

/-- What one call at a state of the graph does. -/
inductive Called (machine : EndpointMachine) (state : EndpointState) (call : Call) :
    Except RuntimeError Unit → EndpointMachine → Prop where
  | moved {next : String} (edge : state.Edge next call) :
      Called machine state call (.ok ()) (machine.moved next)
  | failed (error : RuntimeError) : Called machine state call (.error error) machine

theorem called_perform (present : machine.state = some state) (action : Action) :
    ∃ result after, machine.call (.perform action) = some (result, after) ∧
      Called machine state (.perform action) result after := by
  rcases returned : machine.perform action with _ | ⟨error | envelope, after⟩
  · cases action <;> simp only [perform, emitData, emitSelect, emitCancel, present] at returned
    all_goals
      repeat' split at returned
      all_goals simp_all
  · have same := eq_of_perform_error returned
    subst after
    exact ⟨.error error, machine, by simp [call, returned, Except.map], .failed error⟩
  · rcases perform_eq_ok_iff.mp returned with ⟨here, frame, next, found, emitted, _, moved⟩
    have sameState := Option.some.inj (present.symm.trans found)
    subst here after
    refine ⟨.ok (), machine.moved next, by simp [call, returned, Except.map], .moved ?_⟩
    exact EndpointState.edge_of_emitFrame emitted

/-- An accept never panics on a machine that has a state. -/
theorem called_accept (present : machine.state = some state) (envelope : WireEnvelope) :
    ∃ result after, machine.call (.accept envelope) = some (result, after) ∧
      Called machine state (.accept envelope) result after := by
  rcases returned : machine.accept envelope with _ | ⟨error | frame, after⟩
  · unfold accept at returned
    split at returned
    · simp at returned
    · simp only [present] at returned
      split at returned <;> simp at returned
  · have same := eq_of_accept_error returned
    subst after
    exact ⟨.error error, machine, by simp [call, returned, Except.map], .failed error⟩
  · rcases accept_eq_ok_iff.mp returned with ⟨sealed, here, next, found, accepted, moved⟩
    have sameState := Option.some.inj (present.symm.trans found)
    subst here after
    refine ⟨.ok (), machine.moved next, by simp [call, returned, Except.map], .moved ?_⟩
    apply EndpointState.edge_of_acceptFrame
    rw [sealed]
    exact accepted

theorem called_observeFailure (present : machine.state = some state) (failure : String) :
    ∃ result after, machine.call (.observeFailure failure) = some (result, after) ∧
      Called machine state (.observeFailure failure) result after := by
  have found : (machine.endpoint.states.find? fun state => state.id == machine.current) =
      some state := present
  rcases declared : state.failureTarget failure with _ | next
  · refine ⟨_, machine, ?_, .failed
      (.protocol machine.role machine.current "observe failure" (.undeclaredFailure failure))⟩
    simp [call, observeFailure, observeFailureAt, found, declared, Except.map]
  · refine ⟨.ok (), machine.moved next, ?_, .moved declared⟩
    simp [call, observeFailure, observeFailureAt, found, declared, Except.map,
      EndpointMachine.moved]

/-- The state of the machine is one of an endpoint that the verifier accepted. -/
structure Inside (machine : EndpointMachine) : Prop where
  verified : ∃ conversation roles, machine.endpoint.Verified conversation roles
  current_mem : machine.current ∈ machine.endpoint.states.map EndpointState.id

namespace Inside

variable (inside : machine.Inside)

include inside

/-- The lookup of the current state never fails. -/
theorem exists_state : ∃ state ∈ machine.endpoint.states,
    state.id = machine.current ∧ machine.state = some state := by
  rcases List.mem_map.mp inside.current_mem with ⟨state, member, sameId⟩
  rcases found : machine.state with _ | other
  · have missing := List.find?_eq_none.mp found state member
    simp [sameId] at missing
  · have otherMem := List.mem_of_find?_eq_some found
    have otherId := List.find?_some found
    exact ⟨other, otherMem, by simpa using otherId, rfl⟩

theorem exists_called (call : Call) : ∃ state ∈ machine.endpoint.states,
    machine.state = some state ∧ ∃ result after,
      machine.call call = some (result, after) ∧ Called machine state call result after := by
  rcases inside.exists_state with ⟨state, member, _, present⟩
  refine ⟨state, member, present, ?_⟩
  cases call with
  | perform action => exact called_perform present action
  | accept envelope => exact called_accept present envelope
  | observeFailure failure => exact called_observeFailure present failure

theorem moved {next : String} {call : Call} (member : state ∈ machine.endpoint.states)
    (edge : state.Edge next call) : (machine.moved next).Inside := by
  rcases inside.verified with ⟨conversation, roles, verified⟩
  refine ⟨⟨conversation, roles, verified⟩, ?_⟩
  exact (verified.states state member).target_mem next edge.mem_endpointSuccessors

theorem run (calls : List Call) : ∃ after, machine.calls calls = some after ∧
    after.Inside ∧ after.endpoint = machine.endpoint := by
  induction calls generalizing machine with
  | nil => exact ⟨machine, rfl, inside, rfl⟩
  | cons call calls ih =>
      rcases inside.exists_called call with ⟨state, member, _, result, next, returned, called⟩
      have kept : next.Inside ∧ next.endpoint = machine.endpoint := by
        cases called with
        | moved edge => exact ⟨inside.moved member edge, rfl⟩
        | failed => exact ⟨inside, rfl⟩
      rcases ih kept.1 with ⟨after, ran, afterInside, sameEndpoint⟩
      refine ⟨after, ?_, afterInside, sameEndpoint.trans kept.2⟩
      simpa [EndpointMachine.calls, returned] using ran

end Inside

theorem fromPlan_eq_ok_iff {plan : PreparedPlan} {role : String} :
    fromPlan plan role = .ok machine ↔
      ∃ endpoint, plan.endpoint role = some endpoint ∧
        machine =
          ⟨endpoint, plan.conversationIdentity, plan.planIdentity, endpoint.initial, 0⟩ := by
  rcases found : plan.endpoint role with _ | endpoint
  · simp [fromPlan, found]
  · simp [fromPlan, found, eq_comm]

theorem inside_of_fromPlan {plan : PreparedPlan} (sound : plan.Sound) {role : String}
    (created : fromPlan plan role = .ok machine) :
    machine.Inside ∧ machine.endpoint ∈ plan.endpoints ∧ machine.endpoint.role = role := by
  rcases fromPlan_eq_ok_iff.mp created with ⟨endpoint, found, built⟩
  subst machine
  have member : endpoint ∈ plan.endpoints := List.mem_of_find?_eq_some found
  have verified := sound.endpoints endpoint member
  refine ⟨⟨⟨_, _, verified⟩, verified.initial_mem⟩, member, ?_⟩
  simpa using List.find?_some found

/-- However its calls go, the machine of an accepted plan is at a state of its endpoint, from
which every call returns: it moves along one edge and counts it, or it fails and changes
nothing. -/
theorem verified_machine_stays_in_graph (crates : Crates) (plan : ColloqPlan)
    (accepted : plan.verify crates = .ok ()) (prepared : PreparedPlan)
    (completed : plan.prepared = .ok prepared) (role : String) (initial : EndpointMachine)
    (created : fromPlan prepared role = .ok initial) (calls : List Call) :
    ∃ machine, initial.calls calls = some machine ∧ machine.endpoint ∈ plan.endpoints ∧
      machine.endpoint.role = role ∧
      ∃ state ∈ machine.endpoint.states, state.id = machine.current ∧
        machine.state = some state ∧
        ∀ call, ∃ result after, machine.call call = some (result, after) ∧
          (result = .ok () → ∃ next, state.Edge next call ∧ after.current = next ∧
            after.sequence = machine.sequence + 1 ∧
            (machine.sequence.toNat + 1 < UInt64.size →
              after.sequence.toNat = machine.sequence.toNat + 1)) ∧
          (∀ error, result = .error error → after = machine) ∧
          (state.isTerminal = true → ∃ error, result = .error error) := by
  have sound := ((ColloqPlan.verify_eq_ok_iff crates plan).mp accepted).sound completed
  have sameEndpoints := ColloqPlan.endpoints_of_prepared completed
  rcases inside_of_fromPlan sound created with ⟨inside, member, sameRole⟩
  rcases inside.run calls with ⟨machine, ran, machineInside, sameEndpoint⟩
  rcases machineInside.exists_state with ⟨state, stateMem, sameId, present⟩
  rw [← sameEndpoint, sameEndpoints] at member
  rw [← sameEndpoint] at sameRole
  refine ⟨machine, ran, member, sameRole, state, stateMem, sameId, present, ?_⟩
  intro call
  rcases machineInside.exists_called call with
    ⟨here, _, herePresent, result, after, returned, called⟩
  have sameState := Option.some.inj (present.symm.trans herePresent)
  subst here
  refine ⟨result, after, returned, ?_⟩
  cases called with
  | failed error =>
      refine ⟨by simp, ?_, ?_⟩
      · intro _ _
        rfl
      · intro _
        exact ⟨error, rfl⟩
  | moved edge =>
      refine ⟨?_, by simp, ?_⟩
      · intro _
        refine ⟨_, edge, rfl, rfl, ?_⟩
        intro fits
        exact (UInt64.toNat_add _ _).trans (Nat.mod_eq_of_lt fits)
      · intro terminal
        have running := edge.isTerminal_eq_false
        simp [terminal] at running

/-- A server that is asked out of turn, answers out of turn and then loses its link. -/
theorem verified_machine_stays_in_graph_inquiry :
    ∃ machine, (Conversation.inquiry.initialMachine .reference "server").calls
        [.perform (.data .null), .accept (Conversation.inquiry.initialMachine .reference
          "server" |>.envelope (.select "client" "ask")), .observeFailure "transport.closed"] =
          some machine ∧
      machine.endpoint ∈ (Conversation.inquiry.compiledPlan .reference).endpoints ∧
      machine.endpoint.role = "server" ∧
      ∃ state ∈ machine.endpoint.states, state.id = machine.current ∧
        machine.state = some state ∧
        ∀ call, ∃ result after, machine.call call = some (result, after) ∧
          (result = .ok () → ∃ next, state.Edge next call ∧ after.current = next ∧
            after.sequence = machine.sequence + 1 ∧
            (machine.sequence.toNat + 1 < UInt64.size →
              after.sequence.toNat = machine.sequence.toNat + 1)) ∧
          (∀ error, result = .error error → after = machine) ∧
          (state.isTerminal = true → ∃ error, result = .error error) :=
  verified_machine_stays_in_graph .reference _
    ((ColloqPlan.verify_eq_ok_iff .reference _).mpr
      Conversation.compilable_inquiry.verified_compiledPlan)
    (Conversation.inquiry.preparedPlan .reference) rfl "server" _
    (Conversation.fromPlan_preparedPlan_eq_ok_iff.mpr
      ⟨by simp [Conversation.HasRole, Conversation.inquiry], rfl⟩) _

end EndpointMachine

end Colloq
