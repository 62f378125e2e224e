import Colloq.Verified
import Colloq.WellFormed

/-!
# The compiler and its own verifier

Projection of a well-formed conversation satisfies every check of the plan
verifier, and both endpoints contribute the same transitions, so compilation
fails only for an invalid conversation, an invalid id or too many transitions.
-/

namespace Colloq

/-- The transitions of a state, seen from neither side. -/
def GlobalState.operations : GlobalState → List WireOperation
  | .send _ sender receiver message .. => [.data sender receiver message]
  | .choice _ chooser branches _ => branches.keys.map (.select chooser)
  | .cancel _ sender receiver scope .. => [.cancel sender receiver scope]
  | .end _ | .fail .. => []

/-- One for a send or cancel state, the number of branches for a choice. -/
def GlobalState.transitionCount : GlobalState → ℕ
  | .send .. | .cancel .. => 1
  | .choice _ _ branches _ => branches.size
  | .end _ | .fail .. => 0

namespace Conversation

def transitions (conversation : Conversation) : List (String × WireOperation) :=
  conversation.states.flatMap fun state =>
    state.operations.map fun operation => (state.id, operation)

def transitionCount (conversation : Conversation) : ℕ :=
  (conversation.states.map GlobalState.transitionCount).sum

variable {conversation : Conversation}

namespace WellFormed

/-- With exactly two roles, whoever is not the sender of a state is its receiver. -/
theorem receiver_eq (wellFormed : conversation.WellFormed) {sender receiver role : String}
    (hasSender : conversation.HasRole sender) (hasReceiver : conversation.HasRole receiver)
    (distinct : sender ≠ receiver) (hasRole : conversation.HasRole role)
    (notSender : sender ≠ role) : receiver = role := by
  rcases List.length_eq_two.mp wellFormed.twoRoles with ⟨first, second, roles⟩
  simp only [HasRole, roles, List.map_cons, List.map_nil, List.mem_cons, List.not_mem_nil,
    or_false] at hasSender hasReceiver hasRole
  grind

theorem roles_nonempty (wellFormed : conversation.WellFormed) : conversation.roles ≠ [] := by
  intro empty
  have := wellFormed.twoRoles
  simp [empty] at this

/-- Both projections of a state describe the same transitions. -/
theorem operations_projectState (wellFormed : conversation.WellFormed) {state : GlobalState}
    (member : state ∈ conversation.states) {role : String}
    (hasRole : conversation.HasRole role) :
    (projectState state role).operations role = state.operations := by
  have stateWellFormed := wellFormed.states state member
  cases state with
  | send id sender receiver message next deadline onFailure =>
      rcases stateWellFormed with ⟨hasSender, hasReceiver, distinct, _⟩
      by_cases same : sender = role
      · simp [projectState, same, EndpointState.operations, GlobalState.operations]
      · have receiverEq := wellFormed.receiver_eq hasSender hasReceiver distinct hasRole same
        simp [projectState, same, EndpointState.operations, GlobalState.operations, receiverEq]
  | choice id chooser branches onFailure =>
      by_cases same : chooser = role <;>
        simp [projectState, same, EndpointState.operations, GlobalState.operations]
  | cancel id sender receiver scope next onFailure =>
      rcases stateWellFormed with ⟨hasSender, hasReceiver, distinct, _⟩
      by_cases same : sender = role
      · simp [projectState, same, EndpointState.operations, GlobalState.operations]
      · have receiverEq := wellFormed.receiver_eq hasSender hasReceiver distinct hasRole same
        simp [projectState, same, EndpointState.operations, GlobalState.operations, receiverEq]
  | «end» id => rfl
  | fail id failure => rfl

theorem transitions_projectRole (wellFormed : conversation.WellFormed) {role : String}
    (hasRole : conversation.HasRole role) :
    (projectRole conversation role).transitions = conversation.transitions := by
  simp only [Endpoint.transitions, projectRole, transitions, List.flatMap_map, id_projectState]
  apply List.flatMap_congr
  intro state member
  rw [wellFormed.operations_projectState member hasRole]

end WellFormed

end Conversation

theorem mem_transitionSet_ofList {transition : String × WireOperation}
    {transitions : List (String × WireOperation)} :
    transition ∈ (Std.ExtTreeSet.ofList transitions transitionCompare : TransitionSet) ↔
      transition ∈ transitions := by
  rw [Std.ExtTreeSet.mem_ofList, List.contains_iff_mem]

theorem sortEndpoints_perm (endpoints : List Endpoint) :
    (ColloqPlan.sortEndpoints endpoints).Perm endpoints :=
  List.perm_insertionSort _ _

/-- The two endpoints contribute every transition twice, and the set keeps it once. -/
theorem Conversation.WellFormed.collectTransitions_eq {conversation : Conversation}
    (wellFormed : conversation.WellFormed) :
    collectTransitions (ColloqPlan.sortEndpoints (projectValidated conversation)) =
      .ofList conversation.transitions transitionCompare := by
  apply Std.ExtTreeSet.ext_mem
  intro transition
  rw [collectTransitions, mem_transitionSet_ofList, mem_transitionSet_ofList,
    List.mem_flatMap]
  constructor
  · rintro ⟨endpoint, endpointMem, contributed⟩
    rcases List.mem_map.mp ((sortEndpoints_perm _).mem_iff.mp endpointMem) with ⟨role, roleMem, rfl⟩
    rwa [wellFormed.transitions_projectRole (List.mem_map_of_mem roleMem)] at contributed
  · intro present
    rcases List.exists_mem_of_ne_nil _ wellFormed.roles_nonempty with ⟨role, roleMem⟩
    refine ⟨projectRole conversation role.id, (sortEndpoints_perm _).mem_iff.mpr
      (List.mem_map_of_mem roleMem), ?_⟩
    rwa [wellFormed.transitions_projectRole (List.mem_map_of_mem roleMem)]

theorem GlobalState.operations_nodup (state : GlobalState) : state.operations.Nodup := by
  cases state with
  | choice id chooser branches onFailure =>
      refine List.Nodup.map ?_ Std.ExtTreeMap.nodup_keys
      intro left right same
      exact (WireOperation.select.inj same).2
  | _ => simp [operations]

theorem GlobalState.length_operations (state : GlobalState) :
    state.operations.length = state.transitionCount := by
  cases state <;> simp [operations, transitionCount, Std.ExtTreeMap.length_keys]

namespace Conversation

variable {conversation : Conversation}

theorem transitions_nodup (nodup : (conversation.states.map GlobalState.id).Nodup) :
    conversation.transitions.Nodup := by
  rw [transitions, List.nodup_flatMap]
  constructor
  · intro state _
    exact state.operations_nodup.map fun left right same => (Prod.mk.inj same).2
  · refine (List.pairwise_map.mp nodup).imp ?_
    intro left right distinct transition inLeft inRight
    rcases List.mem_map.mp inLeft with ⟨_, _, rfl⟩
    rcases List.mem_map.mp inRight with ⟨_, _, same⟩
    exact distinct (Prod.mk.inj same).1.symm

theorem length_transitions : conversation.transitions.length = conversation.transitionCount := by
  simp [transitions, transitionCount, List.length_flatMap, GlobalState.length_operations]

/-- The sorted dictionary is a rearrangement of the transitions. -/
theorem toList_transitions_perm (nodup : (conversation.states.map GlobalState.id).Nodup) :
    (Std.ExtTreeSet.ofList conversation.transitions transitionCompare : TransitionSet).toList.Perm
      conversation.transitions := by
  have distinct : (Std.ExtTreeSet.ofList conversation.transitions transitionCompare :
      TransitionSet).toList.Nodup := by
    refine List.Pairwise.imp ?_ Std.ExtTreeSet.distinct_toList
    exact fun distinct same => distinct (Std.LawfulEqCmp.compare_eq_iff_eq.mpr same)
  refine (List.perm_ext_iff_of_nodup distinct (transitions_nodup nodup)).mpr ?_
  intro transition
  rw [Std.ExtTreeSet.mem_toList, mem_transitionSet_ofList]

end Conversation

/-- The dictionary entries in order, with ids counting up from `index + 1`. -/
def numbered (index : ℕ) (transitions : List (String × WireOperation)) : List WireTransition :=
  (transitions.zipIdx (index + 1)).map fun ((state, operation), id) =>
    { id := .ofNat id, state, operation }

/-- They are numbered in their order as long as the index fits. -/
theorem numberTransitions_eq_ok_iff {index : ℕ} {transitions : List (String × WireOperation)}
    {result : List WireTransition} :
    numberTransitions index transitions = .ok result ↔
      (transitions = [] ∨ index + transitions.length < UInt16.size) ∧
        result = numbered index transitions := by
  induction transitions generalizing index result with
  | nil => simp [numberTransitions, numbered, eq_comm]
  | cons transition transitions ih =>
      rw [numberTransitions, Checked.check_bind_eq_ok_iff, Checked.ensure_eq_ok_iff]
      simp only [Checked.bind_eq_ok_iff, ih, pure, Except.pure, Except.ok.injEq,
        List.length_cons, reduceCtorEq, false_or, numbered, List.zipIdx_cons, List.map_cons]
      constructor
      · rintro ⟨bound, rest, ⟨fits, rfl⟩, rfl⟩
        refine ⟨?_, rfl⟩
        rcases fits with rfl | fits
        · simpa using bound
        · omega
      · rintro ⟨bound, rfl⟩
        exact ⟨by omega, _, ⟨Or.inr (by omega), rfl⟩, rfl⟩

/-- A dictionary is derived unless there are too many transitions for an index of 16 bits. -/
theorem deriveWirePlan_eq_ok_iff {endpoints : List Endpoint} {wire : CompactWirePlan} :
    deriveWirePlan endpoints = .ok wire ↔
      (collectTransitions endpoints).size < UInt16.size ∧
        wire = { encoding := compactWireFormat,
                 transitions := numbered 0 (collectTransitions endpoints).toList } := by
  have bound : ((collectTransitions endpoints).toList = [] ∨
      0 + (collectTransitions endpoints).toList.length < UInt16.size) ↔
        (collectTransitions endpoints).size < UInt16.size := by
    rw [Nat.zero_add, Std.ExtTreeSet.length_toList, Std.ExtTreeSet.toList_eq_nil_iff]
    constructor
    · rintro (empty | fits)
      · simp [empty]
      · exact fits
    · exact Or.inr
  simp only [deriveWirePlan, Checked.bind_eq_ok_iff, numberTransitions_eq_ok_iff, bound, pure,
    Except.pure, Except.ok.injEq]
  constructor
  · rintro ⟨_, ⟨fits, rfl⟩, rfl⟩
    exact ⟨fits, rfl⟩
  · rintro ⟨fits, rfl⟩
    exact ⟨_, ⟨fits, rfl⟩, rfl⟩

/-! ## The compiled plan -/

namespace Conversation

variable (crates : Crates) (conversation : Conversation)

def compiledWire : CompactWirePlan where
  encoding := compactWireFormat
  transitions := numbered 0
    (Std.ExtTreeSet.ofList conversation.transitions transitionCompare : TransitionSet).toList

/-- The plan before its own identity is filled in. -/
def unsignedPlan : ColloqPlan where
  colloqPlan := planFormat
  conversation := conversation.module.id
  conversationIdentity := conversationIdentityValidated crates conversation
  planIdentity := ""
  endpoints := ColloqPlan.sortEndpoints (projectValidated conversation)
  wire := some conversation.compiledWire

def compiledPlan : ColloqPlan :=
  let plan := conversation.unsignedPlan crates
  { plan with planIdentity := plan.calculateIdentity crates }

/-- The conditions that the plan format adds to a well-formed conversation. -/
structure Compilable : Prop extends conversation.WellFormed where
  module_valid : validId conversation.module.id = true
  role_valid : ∀ role ∈ conversation.roles, validId role.id = true
  state_valid : ∀ state ∈ conversation.states, validId state.id = true
  transitionCount_le : conversation.transitionCount ≤ 65535

variable {crates conversation}

theorem WellFormed.roles_projectValidated :
    (ColloqPlan.sortEndpoints (projectValidated conversation)).map Endpoint.role |>.Perm
      (conversation.roles.map Role.id) := by
  refine ((sortEndpoints_perm _).map _).trans (.of_eq ?_)
  simp [projectValidated, projectRole]

/-- No edge of a well-formed conversation leads nowhere. -/
theorem WellFormed.hasState_of_hasEdge (wellFormed : conversation.WellFormed)
    {state : GlobalState} (member : state ∈ conversation.states) {target : String}
    (edge : state.HasEdge target) : conversation.HasState target := by
  have failureTarget : ∀ {onFailure : StringMap String} {failure : String},
      conversation.FailureEdgesWellFormed onFailure → onFailure[failure]? = some target →
      conversation.HasState target := fun edges found =>
    List.mem_map.mpr ⟨_, (edges _ _ found).2, rfl⟩
  have stateWellFormed := wellFormed.states state member
  cases state with
  | send id sender receiver message next deadline onFailure =>
      rcases stateWellFormed with ⟨_, _, _, _, nextState, edges⟩
      rcases edge with rfl | ⟨failure, found⟩
      · exact nextState
      · exact failureTarget edges found
  | choice id chooser branches onFailure =>
      rcases stateWellFormed with ⟨_, _, branchStates, edges⟩
      rcases edge with ⟨label, found⟩ | ⟨failure, found⟩
      · exact (branchStates label target found).2
      · exact failureTarget edges found
  | cancel id sender receiver scope next onFailure =>
      rcases stateWellFormed with ⟨_, _, _, _, nextState, edges⟩
      rcases edge with rfl | ⟨failure, found⟩
      · exact nextState
      · exact failureTarget edges found
  | «end» id => exact edge.elim
  | fail id failure => exact edge.elim

theorem endpointSuccessors_projectState (state : GlobalState) (role : String) :
    endpointSuccessors (projectState state role) = state.successors := by
  cases state <;> simp only [projectState] <;> (try split_ifs) <;> rfl

/-- The peer of a projected state is a role of the conversation. -/
theorem WellFormed.hasRole_endpointPeer (wellFormed : conversation.WellFormed)
    {state : GlobalState} (member : state ∈ conversation.states) {role peer : String}
    (isPeer : endpointPeer (projectState state role) = some peer) :
    conversation.HasRole peer := by
  have stateWellFormed := wellFormed.states state member
  cases state with
  | send | cancel =>
      rcases stateWellFormed with ⟨hasSender, hasReceiver, _⟩
      simp only [projectState] at isPeer
      split_ifs at isPeer
      all_goals
        rcases Option.some.inj isPeer with rfl
        assumption
  | choice id chooser branches onFailure =>
      simp only [projectState] at isPeer
      split_ifs at isPeer
      · simp [endpointPeer] at isPeer
      · rcases Option.some.inj isPeer with rfl
        exact stateWellFormed.1
  | _ => simp [projectState, endpointPeer] at isPeer

theorem map_id_projectRole (role : String) :
    (projectRole conversation role).states.map EndpointState.id =
      conversation.states.map GlobalState.id := by
  simp [projectRole]

/-- Every check of the endpoint verifier follows from global well-formedness. -/
theorem Compilable.verified_projectRole (compilable : conversation.Compilable) {role : Role}
    (roleMem : role ∈ conversation.roles) {roles : List String}
    (sameRoles : roles.Perm (conversation.roles.map Role.id)) :
    (projectRole conversation role.id).Verified conversation.module.id roles where
  format := rfl
  role_valid := compilable.role_valid role roleMem
  initial_valid := by
    rcases List.mem_map.mp compilable.initial_mem with ⟨state, member, initialId⟩
    change validId conversation.initial = true
    exact initialId ▸ compilable.state_valid state member
  conversation_eq := rfl
  stateIds_nodup := by
    rw [map_id_projectRole]
    exact compilable.stateIds_nodup
  initial_mem := by
    rw [map_id_projectRole]
    exact compilable.initial_mem
  states := by
    intro state stateMem
    rw [map_id_projectRole]
    rcases List.mem_map.mp stateMem with ⟨globalState, member, rfl⟩
    constructor
    · rw [id_projectState]
      exact compilable.state_valid globalState member
    · intro target successor
      rw [endpointSuccessors_projectState, mem_successors] at successor
      exact compilable.hasState_of_hasEdge member successor
    · intro peer isPeer
      exact sameRoles.mem_iff.mpr (compilable.hasRole_endpointPeer member isPeer)

theorem size_transitions (nodup : (conversation.states.map GlobalState.id).Nodup) :
    (Std.ExtTreeSet.ofList conversation.transitions transitionCompare : TransitionSet).size =
      conversation.transitionCount := by
  rw [← Std.ExtTreeSet.length_toList, (toList_transitions_perm nodup).length_eq,
    length_transitions]

theorem WellFormed.deriveWirePlan_eq_ok_iff (wellFormed : conversation.WellFormed)
    {wire : CompactWirePlan} :
    deriveWirePlan (ColloqPlan.sortEndpoints (projectValidated conversation)) = .ok wire ↔
      conversation.transitionCount ≤ 65535 ∧ wire = conversation.compiledWire := by
  rw [Colloq.deriveWirePlan_eq_ok_iff, wellFormed.collectTransitions_eq,
    size_transitions wellFormed.stateIds_nodup]
  simp [compiledWire, UInt16.size, Nat.lt_succ_iff]

/-- The compiler never rejects its own output. -/
theorem Compilable.verified_compiledPlan (compilable : conversation.Compilable) :
    (conversation.compiledPlan crates).Verified crates where
  format := rfl
  conversation_valid := compilable.module_valid
  identity_valid := validSha256_sha256Identity crates _
  twoEndpoints := by
    change (ColloqPlan.sortEndpoints (projectValidated conversation)).length = 2
    rw [(sortEndpoints_perm _).length_eq, projectValidated, List.length_map]
    exact compilable.twoRoles
  roles_nodup :=
    WellFormed.roles_projectValidated.nodup_iff.mpr compilable.roleIds_nodup
  endpoints := by
    intro endpoint endpointMem
    rcases List.mem_map.mp ((sortEndpoints_perm _).mem_iff.mp endpointMem) with ⟨role, roleMem, rfl⟩
    exact compilable.verified_projectRole roleMem WellFormed.roles_projectValidated
  identity_eq := rfl
  wire_eq := by
    intro wire present
    rcases Option.some.inj present with rfl
    exact compilable.toWellFormed.deriveWirePlan_eq_ok_iff.mpr
      ⟨compilable.transitionCount_le, rfl⟩

theorem compilable_of_verified (wellFormed : conversation.WellFormed)
    (verified : (conversation.compiledPlan crates).Verified crates)
    (fits : conversation.transitionCount ≤ 65535) : conversation.Compilable := by
  have endpointVerified : ∀ role ∈ conversation.roles,
      ∃ roles, (projectRole conversation role.id).Verified conversation.module.id roles :=
    fun role roleMem => ⟨_, verified.endpoints _
      ((sortEndpoints_perm _).mem_iff.mpr (List.mem_map_of_mem roleMem))⟩
  exact { wellFormed with
    module_valid := verified.conversation_valid
    role_valid := fun role roleMem => (endpointVerified role roleMem).choose_spec.role_valid
    state_valid := by
      intro state member
      rcases List.exists_mem_of_ne_nil _ wellFormed.roles_nonempty with ⟨role, roleMem⟩
      have stateVerified := (endpointVerified role roleMem).choose_spec.states _
        (List.mem_map_of_mem member)
      simpa using stateVerified.id_valid
    transitionCount_le := fits }

end Conversation

theorem mapError_eq_ok_iff {ε ε' α : Type} {f : ε → ε'} {result : Except ε α} {value : α} :
    result.mapError f = .ok value ↔ result = .ok value := by
  cases result <;> simp [Except.mapError]

namespace ColloqPlan

variable {crates : Crates} {conversation : Conversation}

theorem compile_eq_ok_iff {plan : ColloqPlan} :
    compile crates conversation = .ok plan ↔
      conversation.Compilable ∧ plan = conversation.compiledPlan crates := by
  rw [compile, Checked.check_bind_eq_ok_iff, mapError_eq_ok_iff, validate_eq_ok_iff]
  simp only [Checked.bind_eq_ok_iff, pure, Except.pure, Except.ok.injEq]
  constructor
  · rintro ⟨wellFormed, wire, derived, ⟨⟩, verified, rfl⟩
    rcases wellFormed.deriveWirePlan_eq_ok_iff.mp derived with ⟨fits, rfl⟩
    exact ⟨Conversation.compilable_of_verified wellFormed
      ((verify_eq_ok_iff crates _).mp verified) fits, rfl⟩
  · rintro ⟨compilable, rfl⟩
    exact ⟨compilable.toWellFormed, _, compilable.toWellFormed.deriveWirePlan_eq_ok_iff.mpr
      ⟨compilable.transitionCount_le, rfl⟩, (),
      (verify_eq_ok_iff crates _).mpr compilable.verified_compiledPlan, rfl⟩

/-- Compilation succeeds exactly for a valid conversation with valid ids and at most 65535
transitions; no check of the plan verifier can fail on the compiler's own output. -/
theorem compile_succeeds_iff (crates : Crates) (conversation : Conversation) :
    (∃ plan, compile crates conversation = .ok plan) ↔
      validate conversation = .ok () ∧ validId conversation.module.id = true ∧
        (∀ role ∈ conversation.roles, validId role.id = true) ∧
        (∀ state ∈ conversation.states, validId state.id = true) ∧
        conversation.transitionCount ≤ 65535 := by
  simp only [compile_eq_ok_iff, exists_and_left, exists_eq, and_true, validate_eq_ok_iff]
  constructor
  · intro compilable
    exact ⟨compilable.toWellFormed, compilable.module_valid, compilable.role_valid,
      compilable.state_valid, compilable.transitionCount_le⟩
  · rintro ⟨wellFormed, module_valid, role_valid, state_valid, transitionCount_le⟩
    exact { wellFormed with module_valid, role_valid, state_valid, transitionCount_le }

end ColloqPlan

/-! ## A compilable conversation -/

namespace Conversation

/-- A client may repeat its offer, and then puts one question to a server. -/
def inquiry : Conversation where
  colloqConversation := "0.1.0"
  module := { id := "inquiry" }
  roles := [{ id := "client" }, { id := "server" }]
  types := [{ id := "text", definition := {("kind", .null)} }]
  initial := "offer"
  states :=
    [.choice "offer" "client" {("again", "offer"), ("ask", "question")} ∅,
      .send "question" "client" "server" "text" "done" none ∅, .end "done"]

theorem compilable_inquiry : inquiry.Compilable where
  toWellFormed := (validate_eq_ok_iff inquiry).mp rfl
  module_valid := by decide
  role_valid := by decide
  state_valid := by decide
  transitionCount_le := by decide

end Conversation

theorem ColloqPlan.compile_inquiry (crates : Crates) :
    compile crates .inquiry = .ok (Conversation.inquiry.compiledPlan crates) :=
  compile_eq_ok_iff.mpr ⟨Conversation.compilable_inquiry, rfl⟩

end Colloq
