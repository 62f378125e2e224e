import Colloq.Compile
import Colloq.Machine

/-!
# Machines of a prepared plan

A prepared plan comes out of `prepare` or `compile`, so its endpoints have passed
the verifier and its dictionary is the one that they determine. A machine that is
created from it keeps its endpoint and its identities through every operation.
-/

namespace Colloq

/-- A plan as `prepare` or `compile` leave it: verified endpoints and their own dictionary. -/
structure PreparedPlan.Sound (plan : PreparedPlan) : Prop where
  endpoints : ∀ endpoint ∈ plan.endpoints,
    endpoint.Verified plan.conversation (plan.endpoints.map Endpoint.role)
  wire : deriveWirePlan plan.endpoints = .ok plan.wire

theorem ColloqPlan.Verified.sound {crates : Crates} {plan : ColloqPlan}
    (verified : plan.Verified crates) {prepared : PreparedPlan}
    (completed : plan.prepared = .ok prepared) : prepared.Sound := by
  rcases stored : plan.wire with _ | wire
  · simp only [ColloqPlan.prepared, stored, Checked.bind_eq_ok_iff] at completed
    rcases completed with ⟨wire, derived, built⟩
    rcases Except.ok.inj built with rfl
    exact ⟨verified.endpoints, derived⟩
  · simp only [ColloqPlan.prepared, stored, Checked.bind_eq_ok_iff] at completed
    rcases completed with ⟨_, ⟨⟩, built⟩
    rcases Except.ok.inj built with rfl
    exact ⟨verified.endpoints, verified.wire_eq wire stored⟩

theorem ColloqPlan.endpoints_of_prepared {plan : ColloqPlan} {prepared : PreparedPlan}
    (completed : plan.prepared = .ok prepared) : prepared.endpoints = plan.endpoints := by
  rcases stored : plan.wire with _ | wire
  · simp only [ColloqPlan.prepared, stored, Checked.bind_eq_ok_iff] at completed
    rcases completed with ⟨wire, _, built⟩
    rw [← Except.ok.inj built]
  · simp only [ColloqPlan.prepared, stored, Checked.bind_eq_ok_iff] at completed
    rcases completed with ⟨_, _, built⟩
    rw [← Except.ok.inj built]

theorem ColloqPlan.planIdentity_of_prepared {plan : ColloqPlan} {prepared : PreparedPlan}
    (completed : plan.prepared = .ok prepared) : prepared.planIdentity = plan.planIdentity := by
  rcases stored : plan.wire with _ | wire
  · simp only [ColloqPlan.prepared, stored, Checked.bind_eq_ok_iff] at completed
    rcases completed with ⟨wire, _, built⟩
    rw [← Except.ok.inj built]
  · simp only [ColloqPlan.prepared, stored, Checked.bind_eq_ok_iff] at completed
    rcases completed with ⟨_, _, built⟩
    rw [← Except.ok.inj built]

/-- The two ways in which the plan module builds a prepared plan. -/
inductive PreparedPlan.Built (crates : Crates) (prepared : PreparedPlan) : Prop where
  | prepare {plan : ColloqPlan} (accepted : plan.prepare crates = .ok prepared)
  | compile {conversation : Conversation}
      (compiled : PreparedPlan.compile crates conversation = .ok prepared)

/-- A prepared plan has passed the verifier, under its own identity. -/
theorem PreparedPlan.Built.exists_verified {crates : Crates} {prepared : PreparedPlan}
    (built : prepared.Built crates) :
    ∃ plan : ColloqPlan, plan.Verified crates ∧ plan.prepared = .ok prepared := by
  cases built with
  | @prepare plan accepted =>
      rcases Checked.check_bind_eq_ok_iff.mp accepted with ⟨verified, completed⟩
      exact ⟨plan, (ColloqPlan.verify_eq_ok_iff crates plan).mp verified, completed⟩
  | compile compiled =>
      rcases Checked.bind_eq_ok_iff.mp compiled with ⟨plan, compiled, completed⟩
      rcases ColloqPlan.compile_eq_ok_iff.mp compiled with ⟨compilable, same⟩
      rw [same] at completed
      exact ⟨_, compilable.verified_compiledPlan, completed⟩

theorem PreparedPlan.Built.sound {crates : Crates} {prepared : PreparedPlan}
    (built : prepared.Built crates) : prepared.Sound := by
  rcases built.exists_verified with ⟨plan, verified, completed⟩
  exact verified.sound completed

theorem PreparedPlan.Built.planIdentity_ne_empty {crates : Crates} {prepared : PreparedPlan}
    (built : prepared.Built crates) : prepared.planIdentity ≠ "" := by
  rcases built.exists_verified with ⟨plan, verified, completed⟩
  rw [ColloqPlan.planIdentity_of_prepared completed, verified.identity_eq]
  intro empty
  have length := length_sha256Identity crates (crates.toVec plan.semanticJson)
  rw [ColloqPlan.calculateIdentity] at empty
  rw [empty] at length
  cases length

/-- The machine of an endpoint of the plan, in any state and at any sequence number. -/
structure EndpointMachine.Runs (machine : EndpointMachine) (plan : PreparedPlan) : Prop where
  endpoint_mem : machine.endpoint ∈ plan.endpoints
  identity_eq : machine.conversationIdentity = plan.conversationIdentity

namespace EndpointMachine

/-- Any public operation of a machine, whatever it returns. -/
inductive Step : EndpointMachine → EndpointMachine → Prop where
  | perform {machine after : EndpointMachine} {action : Action}
      {result : Except RuntimeError WireEnvelope}
      (returned : machine.perform action = some (result, after)) : Step machine after
  | accept {machine after : EndpointMachine} {envelope : WireEnvelope}
      {result : Except RuntimeError Frame}
      (returned : machine.accept envelope = some (result, after)) : Step machine after
  | observeFailureAt {machine after : EndpointMachine} {id failure : String}
      {result : Except RuntimeError Frame}
      (returned : machine.observeFailureAt id failure = some (result, after)) : Step machine after

/-- Only the state and the sequence number of a machine ever change. -/
theorem Step.frame {machine after : EndpointMachine} (step : Step machine after) :
    after.endpoint = machine.endpoint ∧
      after.conversationIdentity = machine.conversationIdentity ∧
      after.planIdentity = machine.planIdentity := by
  cases step with
  | perform returned =>
      rename_i action _
      cases action <;>
        simp only [EndpointMachine.perform, emitData, emitSelect, emitCancel] at returned <;>
        (repeat' split at returned) <;> grind [emit]
  | accept returned =>
      unfold EndpointMachine.accept at returned
      (repeat' split at returned) <;> grind
  | observeFailureAt returned =>
      unfold EndpointMachine.observeFailureAt at returned
      (repeat' split at returned) <;> grind

/-- The machine that a plan creates for a role runs an endpoint of the plan. -/
theorem runs_of_fromPlan {plan : PreparedPlan} {role : String} {machine : EndpointMachine}
    (created : fromPlan plan role = .ok machine) : machine.Runs plan := by
  unfold fromPlan at created
  split at created
  · simp at created
  · rcases Except.ok.inj created with rfl
    exact ⟨List.mem_of_find?_eq_some ‹_›, rfl⟩

theorem Runs.step {plan : PreparedPlan} {machine after : EndpointMachine}
    (runs : machine.Runs plan) (step : Step machine after) : after.Runs plan := by
  rcases step.frame with ⟨sameEndpoint, sameIdentity, _⟩
  exact ⟨sameEndpoint ▸ runs.endpoint_mem, sameIdentity ▸ runs.identity_eq⟩

theorem Runs.steps {plan : PreparedPlan} {machine after : EndpointMachine}
    (runs : machine.Runs plan) (steps : Relation.ReflTransGen Step machine after) :
    after.Runs plan := by
  induction steps with
  | refl => exact runs
  | tail _ step ih => exact ih.step step

end EndpointMachine

end Colloq
