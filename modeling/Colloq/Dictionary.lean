import Colloq.Compile
import Colloq.JsonText

/-!
# The transition dictionary

The dictionary lists the semantic transitions in strictly increasing order and
numbers them from one without a gap. For a compiled conversation these are
exactly the transitions of the global graph.
-/

namespace Colloq

/-- The global transitions: one for a send or cancel state, one for each label of a choice. -/
inductive Conversation.HasTransition (conversation : Conversation) :
    String → WireOperation → Prop where
  | data {id sender receiver message next : String} {deadline : Option String}
      {onFailure : StringMap String}
      (present : .send id sender receiver message next deadline onFailure ∈ conversation.states) :
      conversation.HasTransition id (.data sender receiver message)
  | select {id chooser label : String} {branches onFailure : StringMap String}
      (present : .choice id chooser branches onFailure ∈ conversation.states)
      (declared : label ∈ branches) :
      conversation.HasTransition id (.select chooser label)
  | cancel {id sender receiver scope next : String} {onFailure : StringMap String}
      (present : .cancel id sender receiver scope next onFailure ∈ conversation.states) :
      conversation.HasTransition id (.cancel sender receiver scope)

namespace Conversation

variable {conversation : Conversation}

/-- Among the transitions are those of the states of the conversation and no others. -/
theorem mem_transitions {id : String} {operation : WireOperation} :
    (id, operation) ∈ conversation.transitions ↔ conversation.HasTransition id operation := by
  constructor
  · intro member
    rcases List.mem_flatMap.mp member with ⟨state, present, contributed⟩
    rcases List.mem_map.mp contributed with ⟨_, operationMem, same⟩
    rcases Prod.mk.inj same with ⟨rfl, rfl⟩
    cases state with
    | send =>
        rcases List.mem_singleton.mp operationMem with rfl
        exact .data present
    | choice =>
        rcases List.mem_map.mp operationMem with ⟨label, declared, rfl⟩
        exact .select present (Std.ExtTreeMap.mem_keys.mp declared)
    | cancel =>
        rcases List.mem_singleton.mp operationMem with rfl
        exact .cancel present
    | «end» => simp [GlobalState.operations] at operationMem
    | fail => simp [GlobalState.operations] at operationMem
  · intro transition
    cases transition with
    | data present | cancel present =>
        exact List.mem_flatMap.mpr
          ⟨_, present, List.mem_map.mpr ⟨_, List.mem_singleton_self _, rfl⟩⟩
    | select present declared =>
        exact List.mem_flatMap.mpr ⟨_, present, List.mem_map.mpr
          ⟨_, List.mem_map_of_mem (Std.ExtTreeMap.mem_keys.mpr declared), rfl⟩⟩

end Conversation

namespace WireTransition

/-- What a dictionary entry means, without its id. -/
def entry (transition : WireTransition) : String × WireOperation :=
  (transition.state, transition.operation)

end WireTransition

theorem map_entry_numbered (index : ℕ) (transitions : List (String × WireOperation)) :
    (numbered index transitions).map WireTransition.entry = transitions := by
  have project : WireTransition.entry ∘ (fun ((state, operation), id) =>
      ({ id := .ofNat id, state, operation } : WireTransition)) = Prod.fst := by
    funext ⟨⟨state, operation⟩, id⟩
    rfl
  rw [numbered, List.map_map, project, List.zipIdx_map_fst]

/-- The entry at an index carries the next number as its id. -/
theorem toNat_id_numbered {index : ℕ} {transitions : List (String × WireOperation)}
    (fits : transitions.length < UInt16.size)
    (bound : index < (numbered 0 transitions).length) :
    ((numbered 0 transitions)[index]).id.toNat = index + 1 := by
  have length : (numbered 0 transitions).length = transitions.length := by simp [numbered]
  simp only [numbered, List.getElem_map, List.getElem_zipIdx, UInt16.toNat_ofNat']
  have size : UInt16.size = 2 ^ 16 := rfl
  rw [Nat.mod_eq_of_lt (by omega)]
  omega

theorem ordered_toList_transitions (transitions : List (String × WireOperation)) :
    (Std.ExtTreeSet.ofList transitions transitionCompare : TransitionSet).toList.Pairwise
      fun left right => transitionCompare left right = .lt :=
  Std.ExtTreeSet.ordered_toList

theorem Conversation.compiledWire_eq_of_perm {conversation other : Conversation}
    (sameStates : other.states.Perm conversation.states) :
    other.compiledWire = conversation.compiledWire := by
  have sameSet : (Std.ExtTreeSet.ofList other.transitions transitionCompare : TransitionSet) =
      .ofList conversation.transitions transitionCompare := by
    apply Std.ExtTreeSet.ext_mem
    intro transition
    rw [mem_transitionSet_ofList, mem_transitionSet_ofList, transitions, transitions]
    exact (sameStates.flatMap_right _).mem_iff
  rw [compiledWire, compiledWire, sameSet]

/-- The dictionary of a compiled plan is the strictly increasing list of the global transitions,
each once, numbered densely from one; it does not depend on the order of roles or states. -/
theorem compiled_dictionary (crates : Crates) (conversation : Conversation) (plan : ColloqPlan)
    (compiled : ColloqPlan.compile crates conversation = .ok plan) :
    ∃ wire, plan.wire = some wire ∧
      (wire.transitions.map WireTransition.entry).Pairwise
        (fun left right => transitionCompare left right = .lt) ∧
      (wire.transitions.map WireTransition.entry).Nodup ∧
      (∀ id operation, (id, operation) ∈ wire.transitions.map WireTransition.entry ↔
        conversation.HasTransition id operation) ∧
      (∀ index (bound : index < wire.transitions.length),
        (wire.transitions[index]).id.toNat = index + 1) ∧
      ∀ other otherPlan, ColloqPlan.compile crates other = .ok otherPlan →
        other.roles.Perm conversation.roles → other.states.Perm conversation.states →
          otherPlan.wire = plan.wire := by
  rcases ColloqPlan.compile_eq_ok_iff.mp compiled with ⟨compilable, rfl⟩
  have nodup := compilable.stateIds_nodup
  have perm := Conversation.toList_transitions_perm nodup
  refine ⟨conversation.compiledWire, rfl, ?_, ?_, ?_, ?_, ?_⟩
  · rw [Conversation.compiledWire, map_entry_numbered]
    exact ordered_toList_transitions _
  · rw [Conversation.compiledWire, map_entry_numbered]
    exact perm.nodup_iff.mpr (Conversation.transitions_nodup nodup)
  · intro id operation
    rw [Conversation.compiledWire, map_entry_numbered, perm.mem_iff,
      Conversation.mem_transitions]
  · intro index bound
    apply toNat_id_numbered
    rw [perm.length_eq, Conversation.length_transitions]
    have := compilable.transitionCount_le
    simp only [UInt16.size]
    omega
  · intro other otherPlan otherCompiled _ sameStates
    rcases ColloqPlan.compile_eq_ok_iff.mp otherCompiled with ⟨_, rfl⟩
    exact congrArg some (Conversation.compiledWire_eq_of_perm sameStates)

theorem compiled_dictionary_inquiry :
    ∃ wire, (Conversation.inquiry.compiledPlan .reference).wire = some wire ∧
      (wire.transitions.map WireTransition.entry).Nodup ∧
      ("offer", .select "client" "again") ∈ wire.transitions.map WireTransition.entry ∧
      ("question", .data "client" "server" "text") ∈ wire.transitions.map WireTransition.entry ∧
      ∀ index (bound : index < wire.transitions.length),
        (wire.transitions[index]).id.toNat = index + 1 := by
  rcases compiled_dictionary .reference .inquiry _ (ColloqPlan.compile_inquiry _) with
    ⟨wire, stored, _, nodup, entries, ids, _⟩
  refine ⟨wire, stored, nodup, (entries _ _).mpr ?_, (entries _ _).mpr ?_, ids⟩
  · exact .select List.mem_cons_self (by decide)
  · exact .data (List.mem_cons_of_mem _ List.mem_cons_self)

end Colloq
