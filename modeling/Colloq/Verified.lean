import Colloq.Plan

/-!
# What the plan verifier accepts

`Endpoint.Verified` and `ColloqPlan.Verified` state the checks of
`verify_endpoint` and `ColloqPlan::verify` without their diagnostics.
-/

namespace Colloq

theorem size_ofList_eq_length_iff (ids : List String) :
    (Std.ExtTreeSet.ofList ids : StringSet).size = ids.length ↔ ids.Nodup := by
  have distinctToList : (Std.ExtTreeSet.ofList ids : StringSet).toList.Nodup := by
    refine List.Pairwise.imp ?_ Std.ExtTreeSet.distinct_toList
    exact fun distinct same => distinct (compare_eq_iff_eq.mpr same)
  have sameMembers : ∀ id, id ∈ (Std.ExtTreeSet.ofList ids : StringSet).toList ↔ id ∈ ids := by
    intro id
    rw [Std.ExtTreeSet.mem_toList, Std.ExtTreeSet.mem_ofList, List.contains_iff_mem]
  rw [← Std.ExtTreeSet.length_toList]
  constructor
  · intro sameLength
    have subperm := distinctToList.subperm fun id member => (sameMembers id).mp member
    exact (subperm.perm_of_length_le sameLength.ge).nodup_iff.mp distinctToList
  · intro nodup
    exact ((List.perm_ext_iff_of_nodup distinctToList nodup).mpr sameMembers).length_eq

/-- The peer of every state is a role of the plan, and every edge ends in a state. -/
structure EndpointState.Verified (state : EndpointState) (stateIds roles : List String) :
    Prop where
  id_valid : validId state.id = true
  target_mem : ∀ target ∈ endpointSuccessors state, target ∈ stateIds
  peer_mem : ∀ peer ∈ endpointPeer state, peer ∈ roles

structure Endpoint.Verified (endpoint : Endpoint) (conversation : String) (roles : List String) :
    Prop where
  format : endpoint.colloqEndpoint = endpointFormat
  role_valid : validId endpoint.role = true
  initial_valid : validId endpoint.initial = true
  conversation_eq : endpoint.conversation = conversation
  stateIds_nodup : (endpoint.states.map EndpointState.id).Nodup
  initial_mem : endpoint.initial ∈ endpoint.states.map EndpointState.id
  states : ∀ state ∈ endpoint.states,
    state.Verified (endpoint.states.map EndpointState.id) roles

structure ColloqPlan.Verified (crates : Crates) (plan : ColloqPlan) : Prop where
  format : plan.colloqPlan = planFormat
  conversation_valid : validId plan.conversation = true
  identity_valid : validSha256 plan.conversationIdentity = true
  twoEndpoints : plan.endpoints.length = 2
  roles_nodup : (plan.endpoints.map Endpoint.role).Nodup
  endpoints : ∀ endpoint ∈ plan.endpoints,
    endpoint.Verified plan.conversation (plan.endpoints.map Endpoint.role)
  identity_eq : plan.planIdentity = plan.calculateIdentity crates
  wire_eq : ∀ wire ∈ plan.wire, deriveWirePlan plan.endpoints = .ok wire

theorem mem_ofList {id : String} {ids : List String} :
    id ∈ (Std.ExtTreeSet.ofList ids : StringSet) ↔ id ∈ ids := by
  rw [Std.ExtTreeSet.mem_ofList, List.contains_iff_mem]

theorem verifyEndpointState_eq_ok_iff (role : String) (stateIds roles : List String)
    (state : EndpointState) :
    verifyEndpointState role (.ofList stateIds) (.ofList roles) state = .ok () ↔
      state.Verified stateIds roles := by
  simp only [verifyEndpointState, Checked.check_bind_eq_ok_iff, Checked.ensure_eq_ok_iff,
    Checked.forEach_eq_ok_iff, mem_ofList]
  constructor
  · rintro ⟨id_valid, target_mem, peer⟩
    refine ⟨id_valid, target_mem, ?_⟩
    intro peerRole peerEq
    rw [Option.mem_def] at peerEq
    simpa [peerEq, mem_ofList] using peer
  · rintro ⟨id_valid, target_mem, peer_mem⟩
    refine ⟨id_valid, target_mem, ?_⟩
    rcases peerEq : endpointPeer state with _ | peerRole
    · rfl
    · simpa [mem_ofList] using peer_mem peerRole peerEq

theorem verifyEndpoint_eq_ok_iff (endpoint : Endpoint) (conversation : String)
    (roles : List String) :
    verifyEndpoint endpoint conversation (.ofList roles) = .ok () ↔
      endpoint.Verified conversation roles := by
  have sameSize := size_ofList_eq_length_iff (endpoint.states.map EndpointState.id)
  rw [List.length_map] at sameSize
  simp only [verifyEndpoint, Checked.check_bind_eq_ok_iff, Checked.ensure_eq_ok_iff,
    Checked.forEach_eq_ok_iff, mem_ofList, verifyEndpointState_eq_ok_iff, sameSize]
  constructor
  · rintro ⟨format, ⟨role_valid, initial_valid⟩, conversation_eq, _, nodup, initial_mem, states⟩
    exact ⟨format, role_valid, initial_valid, conversation_eq, nodup, initial_mem, states⟩
  · rintro ⟨format, role_valid, initial_valid, conversation_eq, nodup, initial_mem, states⟩
    refine ⟨format, ⟨role_valid, initial_valid⟩, conversation_eq, ?_, nodup, initial_mem, states⟩
    intro empty
    simp [empty] at initial_mem

/-- `verify` accepts exactly the plans that have the parts of a compiled one. -/
theorem ColloqPlan.verify_eq_ok_iff (crates : Crates) (plan : ColloqPlan) :
    plan.verify crates = .ok () ↔ plan.Verified crates := by
  have sameSize := size_ofList_eq_length_iff (plan.endpoints.map Endpoint.role)
  rw [List.length_map] at sameSize
  simp only [verify, Checked.check_bind_eq_ok_iff, Checked.ensure_eq_ok_iff,
    Checked.forEach_eq_ok_iff, verifyEndpoint_eq_ok_iff, sameSize]
  constructor
  · rintro ⟨format, ⟨conversation_valid, identity_valid⟩, twoEndpoints, roles_nodup, endpoints,
      identity_eq, wireChecked⟩
    refine ⟨format, conversation_valid, identity_valid, twoEndpoints, roles_nodup, endpoints,
      identity_eq, ?_⟩
    intro wire stored
    rw [Option.mem_def] at stored
    simp only [stored, Checked.bind_eq_ok_iff, Checked.ensure_eq_ok_iff] at wireChecked
    rcases wireChecked with ⟨expected, derived, same⟩
    rw [same]
    exact derived
  · rintro ⟨format, conversation_valid, identity_valid, twoEndpoints, roles_nodup, endpoints,
      identity_eq, wire_eq⟩
    refine ⟨format, ⟨conversation_valid, identity_valid⟩, twoEndpoints, roles_nodup, endpoints,
      identity_eq, ?_⟩
    rcases stored : plan.wire with _ | wire
    · rfl
    · simp only [Checked.bind_eq_ok_iff, Checked.ensure_eq_ok_iff]
      exact ⟨wire, wire_eq wire stored, rfl⟩

end Colloq
