import Colloq.JsonText
import Colloq.Refinement

/-!
# Local runs over an arbitrary transport

A role drives its machine with `send_and_record` and `receive_and_record`. The
transport is any state with any behaviour: it may deliver every envelope and fail
with every error. As long as no call returns an error, the recorded trace is a
path of the global graph that ends where the machine is.
-/

namespace Colloq

/-- The part of the `Transport` trait that a role calls while it runs. -/
class Transport (τ : Type) where
  send : τ → WireEnvelope → Except RuntimeError Unit × τ
  receive : τ → Except RuntimeError WireEnvelope × τ
  abort : τ → τ

/-- What a role holds: its machine, its transport and the trace it records. -/
structure LocalRun (τ : Type) where
  machine : EndpointMachine
  transport : τ
  trace : List Frame

namespace LocalRun

variable {τ : Type} [Transport τ]

/-- `true` if the envelope was sent, `false` if a declared failure was observed instead. -/
def sendAndRecord (run : LocalRun τ) (envelope : WireEnvelope) :
    Option (Except RuntimeError Bool × LocalRun τ) :=
  match Transport.send run.transport envelope with
  | (.ok (), transport) =>
    some (.ok true, { run with transport, trace := run.trace ++ [envelope.frame] })
  | (.error error, transport) =>
    match error.transportFailure with
    | none => some (.error error, { run with transport })
    | some failure =>
      let transport := Transport.abort transport
      -- The machine has already moved on; the failure edge is that of the state it sent from.
      match run.machine.observeFailureAt envelope.state failure with
      | none => none
      | some (.error error, machine) => some (.error error, { run with machine, transport })
      | some (.ok fault, machine) =>
        some (.ok false, { machine, transport, trace := run.trace ++ [fault] })

/-- The accepted frame, or none if a declared failure was observed instead. -/
def receiveAndRecord (run : LocalRun τ) :
    Option (Except RuntimeError (Option Frame) × LocalRun τ) :=
  match Transport.receive run.transport with
  | (.ok envelope, transport) =>
    match run.machine.accept envelope with
    | none => none
    | some (.error error, machine) => some (.error error, { run with machine, transport })
    | some (.ok frame, machine) =>
      some (.ok (some frame), { machine, transport, trace := run.trace ++ [frame] })
  | (.error error, transport) =>
    match error.transportFailure with
    | none => some (.error error, { run with transport })
    | some failure =>
      let transport := Transport.abort transport
      match run.machine.observeFailure failure with
      | none => none
      | some (.error error, machine) => some (.error error, { run with machine, transport })
      | some (.ok fault, machine) =>
        some (.ok none, { machine, transport, trace := run.trace ++ [fault] })

/-- One call that returns `Ok`: an action whose envelope is sent and recorded, or a receive. -/
inductive Step : LocalRun τ → LocalRun τ → Prop where
  | send {run after : LocalRun τ} {action : EndpointMachine.Action} {envelope : WireEnvelope}
      {machine : EndpointMachine} {sent : Bool}
      (performed : run.machine.perform action = some (.ok envelope, machine))
      (returned : sendAndRecord { run with machine } envelope = some (.ok sent, after)) :
      Step run after
  | receive {run after : LocalRun τ} {frame : Option Frame}
      (returned : run.receiveAndRecord = some (.ok frame, after)) : Step run after

/-- The trace leads through the global graph to the state of the machine. -/
structure Conforms (conversation : Conversation) (run : LocalRun τ) : Prop where
  executes : run.machine.Executes conversation
  traced : conversation.run conversation.initial run.trace = some run.machine.current

variable {conversation : Conversation} {run after : LocalRun τ}

/-- What a successful `send_and_record` did: it recorded the frame, or the fault of the state
from which the envelope was sent. -/
theorem sendAndRecord_cases {envelope : WireEnvelope} {sent : Bool}
    (returned : run.sendAndRecord envelope = some (.ok sent, after)) :
    (after.machine = run.machine ∧ after.trace = run.trace ++ [envelope.frame]) ∨
      ∃ failure fault,
        run.machine.observeFailureAt envelope.state failure = some (.ok fault, after.machine) ∧
          after.trace = run.trace ++ [fault] := by
  unfold sendAndRecord at returned
  split at returned
  · rcases Prod.mk.inj (Option.some.inj returned) with ⟨_, rfl⟩
    exact Or.inl ⟨rfl, rfl⟩
  · split at returned
    · simp at returned
    · dsimp only at returned
      split at returned
      · simp at returned
      · simp at returned
      · rename_i failure _ _ fault machine observed
        rcases Prod.mk.inj (Option.some.inj returned) with ⟨_, rfl⟩
        exact Or.inr ⟨failure, fault, observed, rfl⟩

/-- What a successful `receive_and_record` did: it accepted some envelope, or observed a
failure at the current state. -/
theorem receiveAndRecord_cases {received : Option Frame}
    (returned : run.receiveAndRecord = some (.ok received, after)) :
    ∃ frame, after.trace = run.trace ++ [frame] ∧
      ((∃ envelope, run.machine.accept envelope = some (.ok frame, after.machine)) ∨
        ∃ failure, run.machine.observeFailure failure = some (.ok frame, after.machine)) := by
  unfold receiveAndRecord at returned
  split at returned
  · rename_i envelope _ _
    split at returned
    · simp at returned
    · simp at returned
    · rename_i frame machine accepted
      rcases Prod.mk.inj (Option.some.inj returned) with ⟨_, rfl⟩
      exact ⟨frame, rfl, Or.inl ⟨envelope, accepted⟩⟩
  · split at returned
    · simp at returned
    · dsimp only at returned
      split at returned
      · simp at returned
      · simp at returned
      · rename_i failure _ _ fault machine observed
        rcases Prod.mk.inj (Option.some.inj returned) with ⟨_, rfl⟩
        exact ⟨fault, rfl, Or.inr ⟨failure, observed⟩⟩

namespace Conforms

omit [Transport τ] in
/-- A fault observed at the state where a trace ended leads along the graph. -/
theorem observed {run after : LocalRun τ} {trace : List Frame} {id failure : String}
    {fault : Frame} (executes : run.machine.Executes conversation)
    (traced : conversation.run conversation.initial trace = some id)
    (observed : run.machine.observeFailureAt id failure = some (.ok fault, after.machine))
    (recorded : after.trace = trace ++ [fault]) : after.Conforms conversation := by
  rcases executes.observeFailureAt_eq_ok_iff.mp observed with ⟨rfl, next, allowed, machineEq⟩
  have hasState := executes.wellFormed.hasState_next allowed
  refine ⟨?_, ?_⟩
  · rw [machineEq]
    exact ⟨executes.wellFormed, executes.endpoint_eq, executes.role_mem, hasState⟩
  · rw [recorded, machineEq]
    exact Conversation.run_snoc traced allowed

/-- Whatever a call returns, the run conforms after it. -/
theorem step (conforms : run.Conforms conversation) (step : Step run after) :
    after.Conforms conversation := by
  rcases conforms with ⟨executes, traced⟩
  cases step with
  | send performed returned =>
      rcases executes.perform_eq_ok_iff.mp performed with ⟨frame, next, _, _, allowed, rfl, rfl⟩
      have hasState := executes.wellFormed.hasState_next allowed
      rcases sendAndRecord_cases returned with
        ⟨machineEq, recorded⟩ | ⟨failure, fault, fell, recorded⟩
      · refine ⟨machineEq ▸ executes.moved hasState, ?_⟩
        rw [recorded, machineEq]
        exact Conversation.run_snoc traced allowed
      · exact observed (executes.moved hasState) traced fell recorded
  | receive returned =>
      rcases receiveAndRecord_cases returned with
        ⟨frame, recorded, ⟨envelope, accepted⟩ | ⟨failure, fell⟩⟩
      · rcases executes.accept_eq_ok_iff.mp accepted with ⟨_, _, next, allowed, machineEq⟩
        refine ⟨machineEq ▸ executes.moved (executes.wellFormed.hasState_next allowed), ?_⟩
        rw [recorded, machineEq]
        exact Conversation.run_snoc traced allowed
      · exact observed executes traced fell recorded

theorem steps (conforms : run.Conforms conversation)
    (steps : Relation.ReflTransGen Step run after) : after.Conforms conversation := by
  induction steps with
  | refl => exact conforms
  | tail _ step ih => exact ih.step step

end Conforms

/-- Whatever the peer and the transport do, the trace of a run without errors is accepted by
`verify_trace`, whose report agrees with the machine. -/
theorem local_runs_conform (crates : Crates) (conversation : Conversation) (plan : ColloqPlan)
    (compiled : ColloqPlan.compile crates conversation = .ok plan) (role : String)
    (hasRole : conversation.HasRole role) :
    ∃ machine, EndpointMachine.forRole crates conversation role = .ok machine ∧
      ∀ (τ : Type) [Transport τ] (transport : τ) (run : LocalRun τ),
        Relation.ReflTransGen Step { machine, transport, trace := [] } run →
          ∃ report, verifyTrace conversation run.trace = some (.ok report) ∧
            report.finalState = run.machine.current ∧
            run.machine.isComplete = some report.complete ∧
            run.machine.isSuccessful = some report.successful ∧
            run.machine.failure = some report.failure := by
  rcases ColloqPlan.compile_eq_ok_iff.mp compiled with ⟨compilable, _⟩
  refine ⟨_, Conversation.forRole_eq_ok_iff.mpr ⟨compilable, hasRole, rfl⟩, ?_⟩
  intro τ _ transport run steps
  have started : Conforms conversation
      ({ machine := conversation.initialMachine crates role, transport, trace := [] } :
        LocalRun τ) :=
    ⟨compilable.executes_initialMachine hasRole, rfl⟩
  rcases started.steps steps with ⟨executes, traced⟩
  rcases executes.state_eq with ⟨state, _, found, _⟩
  rcases executes.report_eq found run.trace.length with ⟨complete, successful, failure⟩
  exact ⟨_, (Conversation.verifyTrace_eq_ok_iff compilable.toWellFormed).mpr
    ⟨_, state, traced, found, rfl⟩, rfl, complete, successful, failure⟩

theorem local_runs_conform_inquiry :
    ∃ machine, EndpointMachine.forRole .reference .inquiry "server" = .ok machine ∧
      ∀ (τ : Type) [Transport τ] (transport : τ) (run : LocalRun τ),
        Relation.ReflTransGen Step { machine, transport, trace := [] } run →
          ∃ report, verifyTrace .inquiry run.trace = some (.ok report) ∧
            report.finalState = run.machine.current ∧
            run.machine.isComplete = some report.complete ∧
            run.machine.isSuccessful = some report.successful ∧
            run.machine.failure = some report.failure :=
  local_runs_conform .reference .inquiry _ (ColloqPlan.compile_inquiry _) "server"
    (by simp [Conversation.HasRole, Conversation.inquiry])

end LocalRun

end Colloq
