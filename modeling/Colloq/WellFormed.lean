import Colloq.Validate

/-!
# What the checker accepts

`Conversation.WellFormed` states, without any diagnostics, what a well-formed
conversation is. `validate` accepts exactly these conversations.
-/

namespace Colloq

/-- The targets of the next, branch and on_failure edges of a state. -/
def GlobalState.HasEdge : GlobalState → String → Prop
  | .send _ _ _ _ next _ onFailure, target | .cancel _ _ _ _ next onFailure, target =>
      target = next ∨ ∃ failure : String, onFailure[failure]? = some target
  | .choice _ _ branches onFailure, target =>
      (∃ label : String, branches[label]? = some target) ∨
        ∃ failure : String, onFailure[failure]? = some target
  | .end _, _ | .fail .., _ => False

namespace Conversation

variable (conversation : Conversation)

def HasRole (role : String) : Prop := role ∈ conversation.roles.map Role.id

def HasType (type : String) : Prop := type ∈ conversation.types.map TypeDefinition.id

def HasFailure (failure : String) : Prop :=
  failure ∈ conversation.failures.map FailureDefinition.id

def HasState (id : String) : Prop := id ∈ conversation.states.map GlobalState.id

/-- Every key is a declared failure, and its target is a `Fail` state carrying that failure. -/
def FailureEdgesWellFormed (onFailure : StringMap String) : Prop :=
  ∀ failure target : String, onFailure[failure]? = some target →
    conversation.HasFailure failure ∧ GlobalState.fail target failure ∈ conversation.states

def StateWellFormed : GlobalState → Prop
  | .send _ sender receiver message next _ onFailure =>
      conversation.HasRole sender ∧ conversation.HasRole receiver ∧ sender ≠ receiver ∧
        conversation.HasType message ∧ conversation.HasState next ∧
        conversation.FailureEdgesWellFormed onFailure
  | .choice _ chooser branches onFailure =>
      conversation.HasRole chooser ∧ 2 ≤ branches.size ∧
        (∀ label target : String, branches[label]? = some target →
          label ≠ "" ∧ conversation.HasState target) ∧
        conversation.FailureEdgesWellFormed onFailure
  | .cancel _ sender receiver scope next onFailure =>
      conversation.HasRole sender ∧ conversation.HasRole receiver ∧ sender ≠ receiver ∧
        scope ≠ "" ∧ conversation.HasState next ∧
        conversation.FailureEdgesWellFormed onFailure
  | .fail _ failure => conversation.HasFailure failure
  | .end _ => True

def Edge (source target : String) : Prop :=
  ∃ state ∈ conversation.states, state.id = source ∧ state.HasEdge target

/-- Reachable from the initial state along next, branch and on_failure edges. -/
def Reachable (id : String) : Prop :=
  Relation.ReflTransGen conversation.Edge conversation.initial id

/-- The part of well-formedness that needs no reachability. -/
structure StructurallyWellFormed : Prop where
  format : conversation.colloqConversation = conversationFormat
  twoRoles : conversation.roles.length = 2
  roleIds_nodup : (conversation.roles.map Role.id).Nodup
  roleIds_nonempty : "" ∉ conversation.roles.map Role.id
  typeIds_nodup : (conversation.types.map TypeDefinition.id).Nodup
  typeIds_nonempty : "" ∉ conversation.types.map TypeDefinition.id
  typeKinds : ∀ type ∈ conversation.types, "kind" ∈ type.definition
  failureIds_nodup : (conversation.failures.map FailureDefinition.id).Nodup
  failureIds_nonempty : "" ∉ conversation.failures.map FailureDefinition.id
  stateIds_nodup : (conversation.states.map GlobalState.id).Nodup
  initial_mem : conversation.HasState conversation.initial
  states : ∀ state ∈ conversation.states, conversation.StateWellFormed state

structure WellFormed : Prop extends conversation.StructurallyWellFormed where
  reachable : ∀ state ∈ conversation.states, conversation.Reachable state.id
  terminal : ∃ state ∈ conversation.states,
    state.isTerminal = true ∧ conversation.Reachable state.id

end Conversation

/-- The ids that have been seen, and that there is no diagnostic exactly if they are new and not
empty. -/
theorem uniqueIdsFrom_spec (path kind : String) (index : ℕ) (seen : StringSet)
    (ids : List String) :
    (∀ id, id ∈ (uniqueIdsFrom path kind index seen ids).1 ↔
      id ∈ seen ∨ (id ∈ ids ∧ id ≠ "")) ∧
    ((uniqueIdsFrom path kind index seen ids).2 = [] ↔
      ids.Nodup ∧ "" ∉ ids ∧ ∀ id ∈ ids, id ∉ seen) := by
  induction ids generalizing index seen with
  | nil => simp [uniqueIdsFrom]
  | cons id ids ih =>
      simp only [uniqueIdsFrom]
      split_ifs with empty present
      · refine ⟨fun other => ?_, by simp [empty]⟩
        rw [(ih (index + 1) seen).1 other, List.mem_cons]
        constructor
        · tauto
        · rintro (old | ⟨rfl | later, nonempty⟩)
          · exact Or.inl old
          · exact absurd empty nonempty
          · exact Or.inr ⟨later, nonempty⟩
      · refine ⟨fun other => ?_, by simp [present]⟩
        rw [(ih (index + 1) seen).1 other, List.mem_cons]
        constructor
        · tauto
        · rintro (old | ⟨rfl | later, nonempty⟩)
          · exact Or.inl old
          · exact Or.inl present
          · exact Or.inr ⟨later, nonempty⟩
      · refine ⟨fun other => ?_, ?_⟩
        · rw [(ih (index + 1) _).1 other, GraphSearch.mem_insert_iff, List.mem_cons]
          constructor
          · rintro ((rfl | old) | later)
            · exact Or.inr ⟨Or.inl rfl, empty⟩
            · exact Or.inl old
            · exact Or.inr ⟨Or.inr later.1, later.2⟩
          · tauto
        · rw [(ih (index + 1) _).2, List.nodup_cons]
          simp only [GraphSearch.mem_insert_iff, List.mem_cons, not_or, forall_eq_or_imp]
          constructor
          · rintro ⟨nodup, nonempty, fresh⟩
            exact ⟨⟨fun later => (fresh id later).1 rfl, nodup⟩, ⟨Ne.symm empty, nonempty⟩,
              present, fun other later => (fresh other later).2⟩
          · rintro ⟨⟨notLater, nodup⟩, ⟨_, nonempty⟩, _, fresh⟩
            exact ⟨nodup, nonempty, fun other later =>
              ⟨fun same => notLater (same ▸ later), fresh other later⟩⟩

/-- No complaint: the ids are distinct and none is empty. -/
theorem uniqueIds_diagnostics_iff (ids : List String) (path kind : String) :
    (uniqueIds ids path kind).2 = [] ↔ ids.Nodup ∧ "" ∉ ids := by
  simpa [uniqueIds] using (uniqueIdsFrom_spec path kind 0 ∅ ids).2

theorem mem_uniqueIds {ids : List String} {path kind id : String} :
    id ∈ (uniqueIds ids path kind).1 ↔ id ∈ ids ∧ id ≠ "" := by
  simpa [uniqueIds] using (uniqueIdsFrom_spec path kind 0 ∅ ids).1 id

theorem mem_uniqueIds_of_nonempty {ids : List String} {path kind id : String}
    (nonempty : "" ∉ ids) : id ∈ (uniqueIds ids path kind).1 ↔ id ∈ ids := by
  rw [mem_uniqueIds, and_iff_left_iff_imp]
  rintro present rfl
  exact nonempty present

/-- The map of the states, and that there is no diagnostic exactly if their ids are new. -/
theorem collectStatesFrom_spec (index : ℕ) (states : StringMap GlobalState)
    (rest : List GlobalState) :
    (collectStatesFrom index states rest).1 =
      states.insertMany (rest.map fun state => (state.id, state)) ∧
    ((collectStatesFrom index states rest).2 = [] ↔
      (rest.map GlobalState.id).Nodup ∧ ∀ state ∈ rest, state.id ∉ states) := by
  induction rest generalizing index states with
  | nil => simp [collectStatesFrom]
  | cons state rest ih =>
      rcases ih (index + 1) (states.insert state.id state) with ⟨collected, complaints⟩
      simp only [collectStatesFrom, List.map_cons, Std.ExtTreeMap.insertMany_cons]
      split_ifs with present
      · refine ⟨collected, ?_⟩
        simp only [List.mem_cons, forall_eq_or_imp, false_iff]
        exact fun accepted => accepted.2.1 present
      · refine ⟨collected, ?_⟩
        rw [complaints, List.nodup_cons]
        simp only [Std.ExtTreeMap.mem_insert, Std.LawfulEqCmp.compare_eq_iff_eq, not_or,
          List.mem_cons, forall_eq_or_imp, List.mem_map, not_exists, not_and]
        constructor
        · rintro ⟨nodup, fresh⟩
          exact ⟨⟨fun other later same => (fresh other later).1 same.symm, nodup⟩, present,
            fun other later => (fresh other later).2⟩
        · rintro ⟨⟨distinct, nodup⟩, _, fresh⟩
          exact ⟨nodup, fun other later =>
            ⟨fun same => distinct other later same.symm, fresh other later⟩⟩

theorem collectStates_fst (conversation : Conversation) :
    (collectStates conversation.states).1 = conversation.stateMap := by
  rw [collectStates, (collectStatesFrom_spec 0 ∅ _).1, Conversation.stateMap,
    Std.ExtTreeMap.ofList_eq_insertMany_empty]

theorem collectStates_diagnostics_iff (states : List GlobalState) :
    (collectStates states).2 = [] ↔ (states.map GlobalState.id).Nodup := by
  simpa [collectStates] using (collectStatesFrom_spec 0 ∅ states).2

namespace Conversation

variable {conversation : Conversation}

theorem mem_stateMap {id : String} : id ∈ conversation.stateMap ↔ conversation.HasState id := by
  rw [stateMap, Std.ExtTreeMap.mem_ofList, List.contains_iff_mem, List.map_map, HasState]
  rfl

/-- With distinct ids, no entry of the state map is overwritten. -/
theorem getElem?_stateMap (nodup : (conversation.states.map GlobalState.id).Nodup)
    {id : String} {state : GlobalState} :
    conversation.stateMap[id]? = some state ↔ state ∈ conversation.states ∧ state.id = id := by
  have distinct : (conversation.states.map fun state => (state.id, state)).Pairwise
      fun left right => ¬compare left.1 right.1 = .eq := by
    rw [List.pairwise_map]
    exact (List.pairwise_map.mp nodup).imp fun ne same => ne (compare_eq_iff_eq.mp same)
  have read : ∀ present ∈ conversation.states,
      conversation.stateMap[present.id]? = some present := fun present member =>
    Std.ExtTreeMap.getElem?_ofList_of_mem (compare_eq_iff_eq.mpr rfl) distinct
      (List.mem_map_of_mem member)
  constructor
  · intro found
    have present : id ∈ conversation.stateMap :=
      Std.ExtTreeMap.mem_iff_isSome_getElem?.mpr (by simp [found])
    rcases List.mem_map.mp (mem_stateMap.mp present) with ⟨other, member, rfl⟩
    obtain rfl : other = state := by simpa [read other member] using found
    exact ⟨member, rfl⟩
  · rintro ⟨member, rfl⟩
    exact read state member

theorem mem_successors {state : GlobalState} {target : String} :
    target ∈ state.successors ↔ state.HasEdge target := by
  cases state <;> simp [GlobalState.successors, GlobalState.HasEdge]

/-- The graph that is searched is that of the conversation. -/
theorem reachable_stateMap_iff (nodup : (conversation.states.map GlobalState.id).Nodup)
    {id : String} :
    GraphSearch.Reachable conversation.stateMap GlobalState.successors conversation.initial id ↔
      conversation.Reachable id := by
  have sameEdges : ∀ source target,
      GraphSearch.Edge conversation.stateMap GlobalState.successors source target ↔
        conversation.Edge source target := by
    intro source target
    constructor
    · rintro ⟨state, found, successor⟩
      rcases (getElem?_stateMap nodup).mp found with ⟨member, sourceId⟩
      exact ⟨state, member, sourceId, mem_successors.mp successor⟩
    · rintro ⟨state, member, sourceId, edge⟩
      exact ⟨state, (getElem?_stateMap nodup).mpr ⟨member, sourceId⟩, mem_successors.mpr edge⟩
  have same : GraphSearch.Edge conversation.stateMap GlobalState.successors =
      conversation.Edge := by
    funext source target
    exact propext (sameEdges source target)
  rw [GraphSearch.Reachable, same, Reachable]

section StateChecks

variable {roles types failures : StringSet}

theorem validateRoles_eq_nil_iff (hasRole : ∀ role, role ∈ roles ↔ conversation.HasRole role)
    (index : ℕ) (sender receiver : String) :
    validateRoles index sender receiver roles = [] ↔
      conversation.HasRole sender ∧ conversation.HasRole receiver ∧ sender ≠ receiver := by
  simp only [validateRoles, List.append_eq_nil_iff, ite_eq_left_iff, ite_eq_right_iff,
    reduceCtorEq, imp_false, not_not, hasRole, and_assoc, ne_eq]

theorem validateTarget_eq_nil_iff (index : ℕ) (edge target : String) :
    validateTarget index edge target conversation.stateMap = [] ↔
      conversation.HasState target := by
  simp [validateTarget, mem_stateMap]

/-- A failure edge has to lead to the fail state of its own failure. -/
theorem validateFailureEdge_eq_nil_iff
    (nodup : (conversation.states.map GlobalState.id).Nodup)
    (hasFailure : ∀ failure, failure ∈ failures ↔ conversation.HasFailure failure)
    (index : ℕ) (failure target : String) :
    validateFailureEdge index failure target failures conversation.stateMap = [] ↔
      conversation.HasFailure failure ∧ GlobalState.fail target failure ∈ conversation.states := by
  rw [validateFailureEdge, List.append_eq_nil_iff, List.append_eq_nil_iff,
    validateTarget_eq_nil_iff, and_assoc]
  apply and_congr
  · simp [hasFailure]
  · rcases found : conversation.stateMap[target]? with _ | state
    · constructor
      · rintro ⟨present, _⟩
        have := Std.ExtTreeMap.mem_iff_isSome_getElem?.mp (mem_stateMap.mpr present)
        simp [found] at this
      · intro member
        have := (getElem?_stateMap nodup).mpr ⟨member, rfl⟩
        simp [GlobalState.id, found] at this
    · rcases (getElem?_stateMap nodup).mp found with ⟨member, targetId⟩
      have present : conversation.HasState target := List.mem_map.mpr ⟨state, member, targetId⟩
      have unique : GlobalState.fail target failure ∈ conversation.states ↔
          state = .fail target failure := by
        constructor
        · intro other
          have read := (getElem?_stateMap nodup).mpr ⟨other, rfl⟩
          simpa [GlobalState.id, found] using read
        · rintro rfl
          exact member
      rw [unique]
      simp only [present, true_and]
      subst targetId
      cases state <;> simp [GlobalState.id]

theorem validateFailureEdges_eq_nil_iff
    (nodup : (conversation.states.map GlobalState.id).Nodup)
    (hasFailure : ∀ failure, failure ∈ failures ↔ conversation.HasFailure failure)
    (index : ℕ) (onFailure : StringMap String) :
    validateFailureEdges index onFailure failures conversation.stateMap = [] ↔
      conversation.FailureEdgesWellFormed onFailure := by
  simp [validateFailureEdges, validateFailureEdge_eq_nil_iff nodup hasFailure,
    FailureEdgesWellFormed, Std.ExtTreeMap.mem_toList_iff_getElem?_eq_some]

theorem validateBranch_eq_nil_iff (index : ℕ) (label target : String) :
    validateBranch index label target conversation.stateMap = [] ↔
      label ≠ "" ∧ conversation.HasState target := by
  simp [validateBranch, validateTarget_eq_nil_iff]

theorem validateState_eq_nil_iff (nodup : (conversation.states.map GlobalState.id).Nodup)
    (hasRole : ∀ role, role ∈ roles ↔ conversation.HasRole role)
    (hasType : ∀ type, type ∈ types ↔ conversation.HasType type)
    (hasFailure : ∀ failure, failure ∈ failures ↔ conversation.HasFailure failure)
    (index : ℕ) (state : GlobalState) :
    validateState roles types failures conversation.stateMap index state = [] ↔
      conversation.StateWellFormed state := by
  cases state <;>
    simp [validateState, StateWellFormed, validateRoles_eq_nil_iff hasRole, hasRole, hasType,
      hasFailure, validateTarget_eq_nil_iff, validateBranch_eq_nil_iff,
      validateFailureEdges_eq_nil_iff nodup hasFailure, Nat.lt_iff_add_one_le,
      Std.ExtTreeMap.mem_toList_iff_getElem?_eq_some, and_assoc]

end StateChecks

/-- The passes before the search find nothing exactly if the structure is well formed. -/
theorem validateStructure_eq_nil_iff :
    validateStructure conversation = [] ↔ conversation.StructurallyWellFormed := by
  simp only [validateStructure, List.append_eq_nil_iff, uniqueIds_diagnostics_iff,
    collectStates_diagnostics_iff, collectStates_fst, ite_eq_left_iff, reduceCtorEq, imp_false,
    not_not, List.flatMap_eq_nil_iff, mem_stateMap]
  constructor
  · rintro ⟨⟨⟨⟨⟨⟨⟨⟨format, roleIds⟩, twoRoles⟩, typeIds⟩, kinds⟩, failureIds⟩, stateIds⟩,
      initial⟩, states⟩
    exact {
      format, twoRoles
      roleIds_nodup := roleIds.1
      roleIds_nonempty := roleIds.2
      typeIds_nodup := typeIds.1
      typeIds_nonempty := typeIds.2
      typeKinds := by
        intro type member
        rcases List.getElem_of_mem member with ⟨index, bound, rfl⟩
        exact kinds (conversation.types[index], index) (List.mem_zipIdx_iff_getElem?.mpr (by simp))
      failureIds_nodup := failureIds.1
      failureIds_nonempty := failureIds.2
      stateIds_nodup := stateIds
      initial_mem := initial
      states := by
        intro state member
        rcases List.getElem_of_mem member with ⟨index, bound, rfl⟩
        have checked := states (conversation.states[index], index)
          (List.mem_zipIdx_iff_getElem?.mpr (by simp))
        exact (validateState_eq_nil_iff stateIds
          (fun _ => mem_uniqueIds_of_nonempty roleIds.2)
          (fun _ => mem_uniqueIds_of_nonempty typeIds.2)
          (fun _ => mem_uniqueIds_of_nonempty failureIds.2) index _).mp checked }
  · intro wellFormed
    refine ⟨⟨⟨⟨⟨⟨⟨⟨wellFormed.format, wellFormed.roleIds_nodup, wellFormed.roleIds_nonempty⟩,
      wellFormed.twoRoles⟩, wellFormed.typeIds_nodup, wellFormed.typeIds_nonempty⟩, ?_⟩,
      wellFormed.failureIds_nodup, wellFormed.failureIds_nonempty⟩,
      wellFormed.stateIds_nodup⟩, wellFormed.initial_mem⟩, ?_⟩
    · rintro ⟨type, index⟩ member
      exact wellFormed.typeKinds type
        (List.mem_of_getElem? (List.mem_zipIdx_iff_getElem?.mp member))
    · rintro ⟨state, index⟩ member
      have present := List.mem_of_getElem? (List.mem_zipIdx_iff_getElem?.mp member)
      exact (validateState_eq_nil_iff wellFormed.stateIds_nodup
        (fun _ => mem_uniqueIds_of_nonempty wellFormed.roleIds_nonempty)
        (fun _ => mem_uniqueIds_of_nonempty wellFormed.typeIds_nonempty)
        (fun _ => mem_uniqueIds_of_nonempty wellFormed.failureIds_nonempty) index state).mpr
        (wellFormed.states state present)

/-- The search finds all states, and a terminal one among them. -/
theorem validateReachability_eq_nil_iff
    (nodup : (conversation.states.map GlobalState.id).Nodup) :
    validateReachability conversation conversation.stateMap = [] ↔
      (∀ state ∈ conversation.states, conversation.Reachable state.id) ∧
        ∃ state ∈ conversation.states,
          state.isTerminal = true ∧ conversation.Reachable state.id := by
  unfold validateReachability reachabilityLoop
  simp only [List.append_eq_nil_iff, List.flatMap_eq_nil_iff, ite_eq_left_iff,
    List.cons_ne_nil, imp_false, not_not]
  simp only [GraphSearch.mem_visited_run, GraphSearch.found_run, reachable_stateMap_iff nodup,
    getElem?_stateMap nodup]
  apply and_congr_right
  intro _
  constructor
  · rintro ⟨_, state, reachable, ⟨member, rfl⟩, terminal⟩
    exact ⟨state, member, terminal, reachable⟩
  · rintro ⟨state, member, terminal, reachable⟩
    exact ⟨state.id, state, reachable, ⟨member, rfl⟩, terminal⟩

end Conversation

/-- `validate` accepts the well-formed conversations and no others. -/
theorem validate_eq_ok_iff (conversation : Conversation) :
    validate conversation = .ok () ↔ conversation.WellFormed := by
  have accepted : validate conversation = .ok () ↔ validateStructure conversation = [] ∧
      validateReachability conversation conversation.stateMap = [] := by
    simp only [validate, collectStates_fst]
    by_cases clean : validateStructure conversation = []
    · simp [clean]
    · simp [clean]
  rw [accepted, Conversation.validateStructure_eq_nil_iff]
  constructor
  · rintro ⟨structure', reachability⟩
    obtain ⟨reachable, terminal⟩ :=
      (Conversation.validateReachability_eq_nil_iff structure'.stateIds_nodup).mp reachability
    exact { structure' with reachable, terminal }
  · intro wellFormed
    exact ⟨{ wellFormed with },
      (Conversation.validateReachability_eq_nil_iff wellFormed.stateIds_nodup).mpr
        ⟨wellFormed.reachable, wellFormed.terminal⟩⟩

/-- The checker accepts exactly the well-formed conversations, and its breadth-first loop
terminates on every state map from every initial state. -/
theorem validate_accepts_exactly_wellFormed (conversation : Conversation) :
    (validate conversation = .ok () ↔ conversation.WellFormed) ∧
      ∀ (states : StringMap GlobalState) (initial : String),
        reachabilityLoop states initial ∈
          StateTransition.eval (reachabilityStep states) (GraphSearch.start initial) :=
  ⟨validate_eq_ok_iff conversation, fun _ initial => GraphSearch.run_mem_eval initial⟩

end Colloq
