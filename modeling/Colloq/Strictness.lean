import Colloq.Leaves

/-!
# What the decoders drop

The decoders of conversations and of plan artifacts keep every scalar, except that
a state or a wire transition drops the members that its kind does not declare.
-/

namespace Colloq

open Serde
open Json (Kept)

/-! ## Conversations -/

theorem kept_module {json : Json} {module : Module} (object : json.IsObject)
    (decoded : Module.fromJson json = .ok module) : Kept json (some module.toJson) := by
  cases json with
  | object members =>
      simp only [Module.fromJson, Checked.bind_eq_ok_iff, pure, Except.pure,
        Except.ok.injEq] at decoded
      rcases decoded with ⟨fields, struct, id, readId, version, readVersion, same⟩
      rcases readStruct_eq_ok struct with ⟨sameFields, known, _⟩
      subst sameFields same
      rw [Module.toJson, kept_struct_iff known]
      simp only [List.forall_mem_cons, List.lookup_cons]
      simp
      exact ⟨kept_text readId, kept_ofOption readVersion⟩
  | _ => exact object.elim

theorem kept_role {json : Json} {role : Role} (object : json.IsObject)
    (decoded : Role.fromJson json = .ok role) : Kept json (some role.toJson) := by
  cases json with
  | object members =>
      simp only [Role.fromJson, Checked.bind_eq_ok_iff, pure, Except.pure,
        Except.ok.injEq] at decoded
      rcases decoded with ⟨fields, struct, id, readId, placement, readPlacement, capabilities,
        readCapabilities, same⟩
      rcases readStruct_eq_ok struct with ⟨sameFields, known, _⟩
      subst sameFields same
      rw [Role.toJson, kept_struct_iff known]
      simp [List.lookup_cons]
      exact ⟨kept_text readId, kept_strings readPlacement,
        kept_strings readCapabilities⟩
  | _ => exact object.elim

theorem kept_failureDefinition {json : Json} {failure : FailureDefinition} (object : json.IsObject)
    (decoded : FailureDefinition.fromJson json = .ok failure) :
    Kept json (some failure.toJson) := by
  cases json with
  | object members =>
      simp only [FailureDefinition.fromJson, Checked.bind_eq_ok_iff, pure, Except.pure,
        Except.ok.injEq] at decoded
      rcases decoded with ⟨fields, struct, id, readId, description, readDescription, retryable,
        readRetryable, same⟩
      rcases readStruct_eq_ok struct with ⟨sameFields, known, _⟩
      subst sameFields same
      rw [FailureDefinition.toJson, kept_struct_iff known]
      simp [List.lookup_cons]
      exact ⟨kept_text readId, kept_ofOption readDescription,
        kept_default readRetryable fun _ _ => kept_bool⟩
  | _ => exact object.elim

/-- A type keeps all its other members in its definition. -/
theorem kept_typeDefinition {json : Json} {type : TypeDefinition}
    (canonical : json.canonical = true) (decoded : TypeDefinition.fromJson json = .ok type) :
    Kept json (some type.toJson) := by
  cases json with
  | object members =>
      simp only [TypeDefinition.fromJson, Checked.bind_eq_ok_iff, pure, Except.pure,
        Except.ok.injEq] at decoded
      rcases decoded with ⟨⟨fields, rest⟩, struct, id, readId, definition, readDefinition, same⟩
      rcases readFlattened_eq_ok struct with ⟨sameFields, sameRest⟩
      subst sameFields sameRest same
      rw [TypeDefinition.toJson, Json.kept_object_iff]
      intro name json found
      by_cases isId : name = "id"
      · subst isId
        rw [List.lookup_cons_self]
        apply kept_text readId
        rw [Association.lookup_filter fun name => decide (name ∈ ["id"])]
        simpa using found
      · rw [List.lookup_cons, beq_eq_false_iff_ne.mpr isId]
        apply kept_members readDefinition
        · apply List.Nodup.sublist _ (Json.nodup_of_canonical canonical)
          exact List.filter_sublist.map _
        · intro json value member
          rcases List.mem_map.mp member with ⟨entry, present, same⟩
          subst same
          exact kept_value (Json.canonical_of_mem canonical (List.mem_filter.mp present).1)
        · rw [Association.lookup_filter fun name => decide (name ∉ ["id"])]
          simpa [isId] using found
  | _ => simp [TypeDefinition.fromJson, readFlattened, bind, Except.bind] at decoded

/-- What a state object declares is what its kind does. -/
def GlobalState.Declared (json : Json) : Prop :=
  ∀ kind, json.child (.key "kind") = some (.string kind) →
    json.Declares ("kind" :: GlobalState.fields kind)

/-- The same for a state of a conversation, whose unknown members are dropped without a word. -/
theorem kept_globalState_iff {json : Json} {state : GlobalState} (object : json.IsObject)
    (canonical : json.canonical = true) (decoded : GlobalState.fromJson json = .ok state) :
    Kept json (some state.toJson) ↔ GlobalState.Declared json := by
  cases json with
  | object members =>
      rw [GlobalState.fromJson, Checked.bind_eq_ok_iff] at decoded
      rcases decoded with ⟨⟨kind, content⟩, tag, decoded⟩
      rcases readTagged_eq_ok tag with ⟨tagged, sameContent⟩
      subst sameContent
      have declared : GlobalState.Declared (.object members) ↔
          (Json.object members).Declares ("kind" :: GlobalState.fields kind) := by
        rw [GlobalState.Declared, Json.child, tagged]
        simp
      rw [declared]
      simp only at decoded
      split at decoded
      any_goals
        simp only [Checked.bind_eq_ok_iff, pure, Except.pure, Except.ok.injEq] at decoded
      · rcases decoded with ⟨fields, struct, id, readId, sender, readSender, receiver, readReceiver,
          message, readMessage, next, readNext, deadline, readDeadline, onFailure, readOnFailure,
          same⟩
        have sameFields := readOpenStruct_eq_ok struct
        subst sameFields same
        apply kept_tagged_iff tagged List.lookup_cons_self _ rfl
        simp [List.lookup_cons]
        exact ⟨kept_text readId, kept_text readSender, kept_text readReceiver,
          kept_text readMessage, kept_text readNext, kept_ofOption readDeadline,
          kept_defaultMapField canonical readOnFailure⟩
      · rcases decoded with ⟨fields, struct, id, readId, chooser, readChooser, branches,
          readBranches, onFailure, readOnFailure, same⟩
        have sameFields := readOpenStruct_eq_ok struct
        subst sameFields same
        apply kept_tagged_iff tagged List.lookup_cons_self _ rfl
        simp [List.lookup_cons]
        exact ⟨kept_text readId, kept_text readChooser, kept_mapField canonical readBranches,
          kept_defaultMapField canonical readOnFailure⟩
      · rcases decoded with ⟨fields, struct, id, readId, sender, readSender, receiver, readReceiver,
          scope, readScope, next, readNext, onFailure, readOnFailure, same⟩
        have sameFields := readOpenStruct_eq_ok struct
        subst sameFields same
        apply kept_tagged_iff tagged List.lookup_cons_self _ rfl
        simp [List.lookup_cons]
        exact ⟨kept_text readId, kept_text readSender, kept_text readReceiver,
          kept_text readScope, kept_text readNext, kept_defaultMapField canonical readOnFailure⟩
      · rcases decoded with ⟨fields, struct, id, readId, same⟩
        have sameFields := readOpenStruct_eq_ok struct
        subst sameFields same
        apply kept_tagged_iff tagged List.lookup_cons_self _ rfl
        simp [List.lookup_cons]
        exact kept_text readId
      · rcases decoded with ⟨fields, struct, id, readId, failure, readFailure, same⟩
        have sameFields := readOpenStruct_eq_ok struct
        subst sameFields same
        apply kept_tagged_iff tagged List.lookup_cons_self _ rfl
        simp [List.lookup_cons]
        exact ⟨kept_text readId, kept_text readFailure⟩
      · simp at decoded
  | _ => exact object.elim

namespace Conversation

/-- Every struct of a conversation is written as an object. -/
structure StructsAreObjects (json : Json) : Prop where
  self : json.IsObject
  module : ∀ item, json.valueAt [.key "module"] = some item → item.IsObject
  roles : ∀ index item, json.valueAt [.key "roles", .index index] = some item → item.IsObject
  failures : ∀ index item, json.valueAt [.key "failures", .index index] = some item → item.IsObject
  states : ∀ index item, json.valueAt [.key "states", .index index] = some item → item.IsObject

/-- No state object holds a leaf that its kind does not declare. -/
def StatesDeclared (json : Json) : Prop :=
  ∀ index state, json.valueAt [.key "states", .index index] = some state →
    GlobalState.Declared state

end Conversation

/-- The decoder of a conversation keeps every leaf but those that a state does not declare. -/
theorem kept_conversation_iff {json : Json} {conversation : Conversation}
    (canonical : json.canonical = true) (objects : Conversation.StructsAreObjects json)
    (decoded : Conversation.fromJson json = .ok conversation) :
    Kept json (some conversation.toJson) ↔ Conversation.StatesDeclared json := by
  cases json with
  | object members =>
      simp only [Conversation.fromJson, Checked.bind_eq_ok_iff, pure, Except.pure,
        Except.ok.injEq] at decoded
      rcases decoded with ⟨fields, struct, schema, readSchema, format, readFormat, module,
        readModule, roles, readRoles, types, readTypes, failures, readFailures, initial,
        readInitial, states, readStates, annotations, readAnnotations, same⟩
      rcases readStruct_eq_ok struct with ⟨sameFields, known, _⟩
      subst sameFields same
      have keptStates := kept_listField_iff readStates fun index item value found =>
        kept_globalState_iff (objects.states index item found)
          (Json.canonical_of_valueAt canonical found)
      have keptModule : ∀ json, fields.lookup "module" = some json →
          Kept json (some module.toJson) := by
        apply kept_required readModule
        intro json found
        exact kept_module (objects.module json (by simp [Json.valueAt, Json.child, found]))
      have keptRoles := kept_listField readRoles fun index item role found =>
        kept_role (objects.roles index item found)
      have keptTypes := kept_listField readTypes fun index item type found =>
        kept_typeDefinition (Json.canonical_of_valueAt canonical found)
      have keptFailures := kept_defaultListField readFailures fun index item failure found =>
        kept_failureDefinition (objects.failures index item found)
      have keptAnnotations : ∀ json, fields.lookup "annotations" = some json →
          Kept json (some (.object (Value.members annotations))) := by
        apply kept_default readAnnotations
        intro json found
        exact kept_valueMap (Json.canonical_of_mem canonical (Association.mem_of_lookup found))
      rw [Conversation.toJson, kept_struct_iff known]
      simp [List.lookup_cons]
      constructor
      · intro kept
        exact keptStates.mp kept.2.2.2.2.2.2.2.1
      · intro declared
        exact ⟨kept_ofOption readSchema, kept_text readFormat, keptModule, keptRoles, keptTypes,
          keptFailures, kept_text readInitial, keptStates.mpr declared, keptAnnotations⟩
  | _ => exact objects.self.elim

/-! ## Plan artifacts -/

/-- What a state object of an endpoint declares is what its operation does. -/
def EndpointState.Declared (json : Json) : Prop :=
  ∀ op, json.child (.key "op") = some (.string op) →
    json.Declares ("op" :: EndpointState.fields op)

/-- Serialising the decoded state loses nothing exactly if the document has no other members than
its variant declares. -/
theorem kept_endpointState_iff {json : Json} {state : EndpointState} (object : json.IsObject)
    (canonical : json.canonical = true) (decoded : EndpointState.fromJson json = .ok state) :
    Kept json (some state.toJson) ↔ EndpointState.Declared json := by
  cases json with
  | object members =>
      rw [EndpointState.fromJson, Checked.bind_eq_ok_iff] at decoded
      rcases decoded with ⟨⟨op, content⟩, tag, decoded⟩
      rcases readTagged_eq_ok tag with ⟨tagged, sameContent⟩
      subst sameContent
      have declared : EndpointState.Declared (.object members) ↔
          (Json.object members).Declares ("op" :: EndpointState.fields op) := by
        rw [EndpointState.Declared, Json.child, tagged]
        simp
      rw [declared]
      simp only at decoded
      split at decoded
      any_goals
        simp only [Checked.bind_eq_ok_iff, pure, Except.pure, Except.ok.injEq] at decoded
      · rcases decoded with ⟨fields, struct, id, readId, receiver, readReceiver, message,
          readMessage, next, readNext, deadline, readDeadline, onFailure, readOnFailure, same⟩
        have sameFields := readOpenStruct_eq_ok struct
        subst sameFields same
        apply kept_tagged_iff tagged List.lookup_cons_self _ rfl
        simp [List.lookup_cons]
        exact ⟨kept_text readId, kept_text readReceiver, kept_text readMessage,
          kept_text readNext, kept_ofOption readDeadline,
          kept_defaultMapField canonical readOnFailure⟩
      · rcases decoded with ⟨fields, struct, id, readId, sender, readSender, message,
          readMessage, next, readNext, deadline, readDeadline, onFailure, readOnFailure, same⟩
        have sameFields := readOpenStruct_eq_ok struct
        subst sameFields same
        apply kept_tagged_iff tagged List.lookup_cons_self _ rfl
        simp [List.lookup_cons]
        exact ⟨kept_text readId, kept_text readSender, kept_text readMessage,
          kept_text readNext, kept_ofOption readDeadline,
          kept_defaultMapField canonical readOnFailure⟩
      · rcases decoded with ⟨fields, struct, id, readId, branches, readBranches, onFailure,
          readOnFailure, same⟩
        have sameFields := readOpenStruct_eq_ok struct
        subst sameFields same
        apply kept_tagged_iff tagged List.lookup_cons_self _ rfl
        simp [List.lookup_cons]
        exact ⟨kept_text readId, kept_mapField canonical readBranches,
          kept_defaultMapField canonical readOnFailure⟩
      · rcases decoded with ⟨fields, struct, id, readId, sender, readSender, branches,
          readBranches, onFailure, readOnFailure, same⟩
        have sameFields := readOpenStruct_eq_ok struct
        subst sameFields same
        apply kept_tagged_iff tagged List.lookup_cons_self _ rfl
        simp [List.lookup_cons]
        exact ⟨kept_text readId, kept_text readSender, kept_mapField canonical readBranches,
          kept_defaultMapField canonical readOnFailure⟩
      · rcases decoded with ⟨fields, struct, id, readId, receiver, readReceiver, scope, readScope,
          next, readNext, onFailure, readOnFailure, same⟩
        have sameFields := readOpenStruct_eq_ok struct
        subst sameFields same
        apply kept_tagged_iff tagged List.lookup_cons_self _ rfl
        simp [List.lookup_cons]
        exact ⟨kept_text readId, kept_text readReceiver, kept_text readScope, kept_text readNext,
          kept_defaultMapField canonical readOnFailure⟩
      · rcases decoded with ⟨fields, struct, id, readId, sender, readSender, scope, readScope,
          next, readNext, onFailure, readOnFailure, same⟩
        have sameFields := readOpenStruct_eq_ok struct
        subst sameFields same
        apply kept_tagged_iff tagged List.lookup_cons_self _ rfl
        simp [List.lookup_cons]
        exact ⟨kept_text readId, kept_text readSender, kept_text readScope, kept_text readNext,
          kept_defaultMapField canonical readOnFailure⟩
      · rcases decoded with ⟨fields, struct, id, readId, same⟩
        have sameFields := readOpenStruct_eq_ok struct
        subst sameFields same
        apply kept_tagged_iff tagged List.lookup_cons_self _ rfl
        simp [List.lookup_cons]
        exact kept_text readId
      · rcases decoded with ⟨fields, struct, id, readId, failure, readFailure, same⟩
        have sameFields := readOpenStruct_eq_ok struct
        subst sameFields same
        apply kept_tagged_iff tagged List.lookup_cons_self _ rfl
        simp [List.lookup_cons]
        exact ⟨kept_text readId, kept_text readFailure⟩
      · simp at decoded
  | _ => exact object.elim

/-- An endpoint denies unknown fields, so only its states can lose members. -/
theorem kept_endpoint_iff {json : Json} {endpoint : Endpoint} (canonical : json.canonical = true)
    (object : json.IsObject)
    (states : ∀ index item, json.valueAt [.key "states", .index index] = some item → item.IsObject)
    (decoded : Endpoint.fromJson json = .ok endpoint) :
    Kept json (some endpoint.toJson) ↔
      ∀ index state, json.valueAt [.key "states", .index index] = some state →
        EndpointState.Declared state := by
  cases json with
  | object members =>
      simp only [Endpoint.fromJson, Checked.bind_eq_ok_iff, pure, Except.pure,
        Except.ok.injEq] at decoded
      rcases decoded with ⟨fields, struct, format, readFormat, conversation, readConversation, role,
        readRole, initial, readInitial, endpointStates, readStates, same⟩
      rcases readStruct_eq_ok struct with ⟨sameFields, known, _⟩
      subst sameFields same
      have keptStates := kept_listField_iff readStates fun index item value found =>
        kept_endpointState_iff (states index item found)
          (Json.canonical_of_valueAt canonical found)
      rw [Endpoint.toJson, kept_struct_iff known]
      simp [List.lookup_cons]
      constructor
      · intro kept
        exact keptStates.mp kept.2.2.2.2
      · intro declared
        exact ⟨kept_text readFormat, kept_text readConversation, kept_text readRole,
          kept_text readInitial, keptStates.mpr declared⟩
  | _ => exact object.elim

/-- What a wire transition declares are its own fields and those of its operation. -/
def WireTransition.Declared (json : Json) : Prop :=
  ∀ op, json.child (.key "op") = some (.string op) →
    json.Declares ("id" :: "state" :: "op" :: WireOperation.fieldNames op)

/-- What is lost of a flattened operation depends on the variant that its tag names. -/
theorem kept_wireOperation_iff {members : List (String × Json)} {operation : WireOperation}
    (decoded : WireOperation.fromJson (.object members) = .ok operation) :
    ∃ op, members.lookup "op" = some (.string op) ∧
      (Kept (.object members) (some (.object operation.members)) ↔
        (Json.object members).Declares ("op" :: WireOperation.fieldNames op)) := by
  rw [WireOperation.fromJson, Checked.bind_eq_ok_iff] at decoded
  rcases decoded with ⟨⟨op, content⟩, tag, decoded⟩
  rcases readTagged_eq_ok tag with ⟨tagged, sameContent⟩
  subst sameContent
  refine ⟨op, tagged, ?_⟩
  simp only at decoded
  split at decoded
  any_goals
    simp only [Checked.bind_eq_ok_iff, pure, Except.pure, Except.ok.injEq] at decoded
  · rcases decoded with ⟨fields, struct, sender, readSender, receiver, readReceiver, message,
      readMessage, same⟩
    have sameFields := readOpenStruct_eq_ok struct
    subst sameFields same
    apply kept_tagged_iff tagged List.lookup_cons_self _ rfl
    simp [List.lookup_cons]
    exact ⟨kept_text readSender, kept_text readReceiver, kept_text readMessage⟩
  · rcases decoded with ⟨fields, struct, chooser, readChooser, label, readLabel, same⟩
    have sameFields := readOpenStruct_eq_ok struct
    subst sameFields same
    apply kept_tagged_iff tagged List.lookup_cons_self _ rfl
    simp [List.lookup_cons]
    exact ⟨kept_text readChooser, kept_text readLabel⟩
  · rcases decoded with ⟨fields, struct, sender, readSender, receiver, readReceiver, scope,
      readScope, same⟩
    have sameFields := readOpenStruct_eq_ok struct
    subst sameFields same
    apply kept_tagged_iff tagged List.lookup_cons_self _ rfl
    simp [List.lookup_cons]
    exact ⟨kept_text readSender, kept_text readReceiver, kept_text readScope⟩
  · simp at decoded

/-- The flattened operation makes the transition open: whatever its variant does not declare is
lost. -/
theorem kept_wireTransition_iff {json : Json} {transition : WireTransition}
    (decoded : WireTransition.fromJson json = .ok transition) :
    Kept json (some transition.toJson) ↔ WireTransition.Declared json := by
  cases json with
  | object members =>
      simp only [WireTransition.fromJson, Checked.bind_eq_ok_iff, pure, Except.pure,
        Except.ok.injEq] at decoded
      rcases decoded with ⟨⟨fields, rest⟩, struct, id, readId, state, readState, operation,
        readOperation, same⟩
      rcases readFlattened_eq_ok struct with ⟨sameFields, sameRest⟩
      subst sameFields sameRest same
      rcases kept_wireOperation_iff readOperation with ⟨op, tagged, keptOperation⟩
      have inOwn : ∀ {name}, name ∈ ["id", "state"] →
          (members.filter fun entry => entry.1 ∈ ["id", "state"]).lookup name =
            members.lookup name := by
        intro name own
        rw [Association.lookup_filter fun name => decide (name ∈ ["id", "state"])]
        simp [own]
      have inRest : ∀ {name}, name ∉ ["id", "state"] →
          (members.filter fun entry => entry.1 ∉ ["id", "state"]).lookup name =
            members.lookup name := by
        intro name other
        rw [Association.lookup_filter fun name => decide (name ∉ ["id", "state"])]
        simp [other]
      have notOwn : ∀ {name json},
          (members.filter fun entry => entry.1 ∉ ["id", "state"]).lookup name = some json →
            name ∉ ["id", "state"] := by
        intro name json found
        have member := (List.mem_filter.mp (Association.mem_of_lookup found)).2
        exact of_decide_eq_true member
      have writtenRest : ∀ {name}, name ∉ ["id", "state"] →
          (("id", Json.number (.posInt id.toUInt64)) :: ("state", Json.string state) ::
            operation.members).lookup name = operation.members.lookup name := by
        intro name other
        simp only [List.mem_cons, List.not_mem_nil, or_false, not_or] at other
        rw [List.lookup_cons, beq_eq_false_iff_ne.mpr other.1, List.lookup_cons,
          beq_eq_false_iff_ne.mpr other.2]
      have tag : members.lookup "op" = some (.string op) := by
        rw [← inRest (by simp)]
        exact tagged
      have declared : WireTransition.Declared (.object members) ↔
          (Json.object members).Declares
            ("id" :: "state" :: "op" :: WireOperation.fieldNames op) := by
        rw [WireTransition.Declared, Json.child, tag]
        simp
      rw [declared, WireTransition.toJson, Json.kept_object_iff]
      constructor
      · intro kept name value found unknown
        have keptRest := Json.kept_object_iff.mpr fun name json found => by
          have here := kept name json ((inRest (notOwn found)).symm.trans found)
          rw [writtenRest (notOwn found)] at here
          exact here
        simp only [List.mem_cons, not_or] at unknown
        have other : name ∉ ["id", "state"] := by simp [unknown.1, unknown.2.1]
        apply keptOperation.mp keptRest name value ((inRest other).trans found)
        simp [unknown.2.2]
      · intro declares
        have keptRest := keptOperation.mpr fun name value found unknown => by
          apply declares name value ((inRest (notOwn found)).symm.trans found)
          have other := notOwn found
          simp only [List.mem_cons, List.not_mem_nil, or_false, not_or] at other unknown ⊢
          exact ⟨other.1, other.2, unknown⟩
        intro name json found
        by_cases own : name ∈ ["id", "state"]
        · have ownFound := (inOwn own).trans found
          simp only [List.mem_cons, List.not_mem_nil, or_false] at own
          rcases own with same | same
          · subst same
            exact kept_required readId (fun _ _ => kept_u16) json ownFound
          · subst same
            exact kept_text readState json ownFound
        · rw [writtenRest own]
          exact Json.kept_object_iff.mp keptRest name json ((inRest own).trans found)
  | _ => simp [WireTransition.fromJson, readFlattened, bind, Except.bind] at decoded

/-- A dictionary loses what its transitions lose. -/
theorem kept_compactWirePlan_iff {json : Json} {wire : CompactWirePlan} (object : json.IsObject)
    (decoded : CompactWirePlan.fromJson json = .ok wire) :
    Kept json (some wire.toJson) ↔
      ∀ index transition, json.valueAt [.key "transitions", .index index] = some transition →
        WireTransition.Declared transition := by
  cases json with
  | object members =>
      simp only [CompactWirePlan.fromJson, Checked.bind_eq_ok_iff, pure, Except.pure,
        Except.ok.injEq] at decoded
      rcases decoded with ⟨fields, struct, encoding, readEncoding, transitions, readTransitions,
        same⟩
      rcases readStruct_eq_ok struct with ⟨sameFields, known, _⟩
      subst sameFields same
      have keptTransitions := kept_listField_iff readTransitions fun index item value _ =>
        kept_wireTransition_iff
      rw [CompactWirePlan.toJson, kept_struct_iff known]
      simp [List.lookup_cons]
      constructor
      · intro kept
        exact keptTransitions.mp kept.2
      · intro declared
        exact ⟨kept_text readEncoding, keptTransitions.mpr declared⟩
  | _ => exact object.elim

namespace ColloqPlan

/-- Every struct of a plan is written as an object. -/
structure StructsAreObjects (json : Json) : Prop where
  self : json.IsObject
  endpoints : ∀ index item, json.valueAt [.key "endpoints", .index index] = some item →
    item.IsObject
  states : ∀ endpoint index item,
    json.valueAt [.key "endpoints", .index endpoint, .key "states", .index index] = some item →
      item.IsObject
  wire : ∀ item, json.valueAt [.key "wire"] = some item → item = .null ∨ item.IsObject

/-- No endpoint state and no wire transition holds a leaf that its operation does not declare. -/
structure MembersDeclared (json : Json) : Prop where
  states : ∀ endpoint index state,
    json.valueAt [.key "endpoints", .index endpoint, .key "states", .index index] = some state →
      EndpointState.Declared state
  transitions : ∀ index transition,
    json.valueAt [.key "wire", .key "transitions", .index index] = some transition →
      WireTransition.Declared transition

end ColloqPlan

/-- A nullable field with a wire plan, which is skipped if there is none. -/
theorem kept_wireField_iff {members : List (String × Json)} {wire : Option CompactWirePlan}
    (objects : ∀ json, members.lookup "wire" = some json → json = .null ∨ json.IsObject)
    (decoded : readOptional CompactWirePlan.fromJson members "wire" = .ok wire) :
    (∀ json, members.lookup "wire" = some json →
      Kept json (wire.map CompactWirePlan.toJson)) ↔
        ∀ index transition, (Json.object members).valueAt
          [.key "wire", .key "transitions", .index index] = some transition →
            WireTransition.Declared transition := by
  cases found : members.lookup "wire" with
  | none => simp [Json.valueAt, Json.child, found]
  | some json =>
      rw [readOptional, found] at decoded
      have place : ∀ index, (Json.object members).valueAt
          [.key "wire", .key "transitions", .index index] =
            json.valueAt [.key "transitions", .index index] := by
        intro index
        simp [Json.valueAt, Json.child, found]
      simp only [place, Option.some.injEq, forall_eq']
      rcases objects json found with null | object
      · subst null
        simp [Json.kept_null, Json.valueAt, Json.child]
      · have present : readNullable CompactWirePlan.fromJson json =
            some <$> CompactWirePlan.fromJson json := by
          cases json <;> first | rfl | exact object.elim
        simp only [present] at decoded
        cases result : CompactWirePlan.fromJson json with
        | error error => simp [result] at decoded
        | ok inner =>
            simp [result] at decoded
            rw [← decoded, Option.map_some]
            exact kept_compactWirePlan_iff object result

/-- The decoder of a plan keeps every leaf but those that a state or a transition does not
declare. -/
theorem kept_plan_iff {json : Json} {plan : ColloqPlan} (canonical : json.canonical = true)
    (objects : ColloqPlan.StructsAreObjects json)
    (decoded : ColloqPlan.fromJson json = .ok plan) :
    Kept json (some plan.toJson) ↔ ColloqPlan.MembersDeclared json := by
  cases json with
  | object members =>
      simp only [ColloqPlan.fromJson, Checked.bind_eq_ok_iff, pure, Except.pure,
        Except.ok.injEq] at decoded
      rcases decoded with ⟨fields, struct, format, readFormat, conversation, readConversation,
        conversationIdentity, readConversationIdentity, planIdentity, readPlanIdentity, endpoints,
        readEndpoints, wire, readWire, same⟩
      rcases readStruct_eq_ok struct with ⟨sameFields, known, _⟩
      subst sameFields same
      have inside : ∀ {index item} {way : List Location},
          (Json.object fields).valueAt [.key "endpoints", .index index] = some item →
            (Json.object fields).valueAt (.key "endpoints" :: .index index :: way) =
              item.valueAt way := by
        intro index item way found
        have whole := @Json.valueAt_append (.object fields) [.key "endpoints", .index index] way
        rw [found] at whole
        exact whole
      have keptEndpoints := kept_listField_iff readEndpoints fun index item value found =>
        kept_endpoint_iff (Json.canonical_of_valueAt canonical found)
          (objects.endpoints index item found)
          (fun state item here => objects.states index state item ((inside found).trans here))
      have keptWire := kept_wireField_iff
        (fun json found => objects.wire json (by simp [Json.valueAt, Json.child, found])) readWire
      rw [ColloqPlan.toJson, kept_struct_iff known]
      have writtenWire : (wire.map fun wire => ("wire", wire.toJson)).toList.lookup "wire" =
          wire.map CompactWirePlan.toJson := by
        cases wire <;> rfl
      simp [List.lookup_cons, writtenWire]
      constructor
      · intro kept
        refine ⟨?_, keptWire.mp kept.2.2.2.2.2⟩
        intro endpoint index state found
        have whole := @Json.valueAt_append (.object fields)
          [.key "endpoints", .index endpoint] [.key "states", .index index]
        cases here : (Json.object fields).valueAt [.key "endpoints", .index endpoint] with
        | none =>
            rw [here] at whole
            exact absurd (found.symm.trans whole) (by simp)
        | some item =>
            exact keptEndpoints.mp kept.2.2.2.2.1 endpoint item here index state
              ((inside here).symm.trans found)
      · intro declared
        refine ⟨kept_text readFormat, kept_text readConversation,
          kept_text readConversationIdentity, kept_text readPlanIdentity, keptEndpoints.mpr ?_,
          keptWire.mpr declared.transitions⟩
        intro endpoint item here index state found
        exact declared.states endpoint index state ((inside here).trans found)
  | _ => exact objects.self.elim

/-- Which documents the decoders of conversations and of plans keep. -/
theorem kept_iff_declared (value : Value) :
    (∀ conversation, Conversation.StructsAreObjects value.json →
      Conversation.fromJson value.json = .ok conversation →
        (Kept value.json (some conversation.toJson) ↔ Conversation.StatesDeclared value.json)) ∧
    ∀ plan, ColloqPlan.StructsAreObjects value.json →
      ColloqPlan.fromJson value.json = .ok plan →
        (Kept value.json (some plan.toJson) ↔ ColloqPlan.MembersDeclared value.json) := by
  constructor
  · intro conversation objects decoded
    exact kept_conversation_iff value.canonical objects decoded
  · intro plan objects decoded
    exact kept_plan_iff value.canonical objects decoded

namespace Strictness

/-- A conversation whose only deadline is misspelt. -/
def misspelt : Value where
  json := .object
    [("colloq_conversation", .string "0.1.0"), ("initial", .string "ask"),
      ("module", .object [("id", .string "inquiry")]),
      ("roles", .array [.object [("id", .string "client")], .object [("id", .string "server")]]),
      ("states", .array [
        .object [("dead_line", .string "5s"), ("from", .string "client"), ("id", .string "ask"),
          ("kind", .string "send"), ("message", .string "question"), ("next", .string "done"),
          ("to", .string "server")],
        .object [("id", .string "done"), ("kind", .string "end")]]),
      ("types", .array [.object [("id", .string "question")]])]
  canonical := by decide +kernel

/-- What is decoded from it has no deadline. -/
def undated : Conversation where
  colloqConversation := conversationFormat
  module := { id := "inquiry" }
  roles := [{ id := "client" }, { id := "server" }]
  types := [{ id := "question", definition := ∅ }]
  initial := "ask"
  states := [.send "ask" "client" "server" "question" "done" none ∅, .end "done"]

theorem fromJson_misspelt : Conversation.fromJson misspelt.json = .ok undated := rfl

theorem isObject_of_valueAt {json item : Json} {items : List Json} {way : List Location}
    {index : ℕ} (list : json.valueAt way = some (.array items))
    (objects : ∀ item ∈ items, item.IsObject)
    (found : json.valueAt (way ++ [.index index]) = some item) : item.IsObject := by
  rw [Json.valueAt_append, list] at found
  apply objects item
  apply @List.mem_of_getElem? _ _ index
  simpa [Json.valueAt, Json.child] using found

theorem structsAreObjects_misspelt : Conversation.StructsAreObjects misspelt.json where
  self := trivial
  module := by
    intro item found
    cases found
    trivial
  roles := by
    intro index item found
    apply @isObject_of_valueAt _ _ _ [.key "roles"] index rfl _ found
    simp [Json.IsObject]
  failures := by
    intro index item found
    simp [misspelt, Json.valueAt, Json.child, List.lookup_cons] at found
  states := by
    intro index item found
    apply @isObject_of_valueAt _ _ _ [.key "states"] index rfl _ found
    simp [Json.IsObject]

/-- A plan artifact with a member that an `end` state does not declare. -/
def annotated : Value where
  json := .object
    [("colloq_plan", .string "0.1.0"), ("conversation", .string "inquiry"),
      ("conversation_identity", .string "sha256:0"),
      ("endpoints", .array [.object
        [("colloq_endpoint", .string "0.1.0"), ("conversation", .string "inquiry"),
          ("initial", .string "done"), ("role", .string "client"),
          ("states", .array [.object [("id", .string "done"), ("next", .string "ask"),
            ("op", .string "end")]])]]),
      ("plan_identity", .string "sha256:1")]
  canonical := by decide +kernel

/-- What is decoded from it has no such member. -/
def plain : ColloqPlan where
  colloqPlan := planFormat
  conversation := "inquiry"
  conversationIdentity := "sha256:0"
  planIdentity := "sha256:1"
  endpoints := [{ colloqEndpoint := endpointFormat, conversation := "inquiry", role := "client",
                  initial := "done", states := [.end "done"] }]
  wire := none

theorem fromJson_annotated : ColloqPlan.fromJson annotated.json = .ok plain := rfl

theorem structsAreObjects_annotated : ColloqPlan.StructsAreObjects annotated.json where
  self := trivial
  endpoints := by
    intro index item found
    apply @isObject_of_valueAt _ _ _ [.key "endpoints"] index rfl _ found
    simp [Json.IsObject]
  states := by
    intro endpoint index item found
    cases endpoint with
    | zero =>
        apply @isObject_of_valueAt _ _ _ [.key "endpoints", .index 0, .key "states"] index rfl
          _ found
        simp [Json.IsObject]
    | succ endpoint => cases found
  wire := by
    intro item found
    simp [annotated, Json.valueAt, Json.child, List.lookup_cons] at found

end Strictness

theorem kept_iff_declared_misspelt :
    (Kept Strictness.misspelt.json (some Strictness.undated.toJson) ↔
      Conversation.StatesDeclared Strictness.misspelt.json) ∧
    (Kept Strictness.annotated.json (some Strictness.plain.toJson) ↔
      ColloqPlan.MembersDeclared Strictness.annotated.json) :=
  ⟨(kept_iff_declared Strictness.misspelt).1 _ Strictness.structsAreObjects_misspelt
      Strictness.fromJson_misspelt,
    (kept_iff_declared Strictness.annotated).2 _ Strictness.structsAreObjects_annotated
      Strictness.fromJson_annotated⟩

/-- The misspelt deadline of a state, and the successor that an `end` state is given, are
accepted and dropped. -/
theorem not_kept_misspelt :
    (Conversation.StructsAreObjects Strictness.misspelt.json ∧
      Conversation.fromJson Strictness.misspelt.json = .ok Strictness.undated ∧
      ¬Kept Strictness.misspelt.json (some Strictness.undated.toJson)) ∧
    ColloqPlan.StructsAreObjects Strictness.annotated.json ∧
      ColloqPlan.fromJson Strictness.annotated.json = .ok Strictness.plain ∧
      ¬Kept Strictness.annotated.json (some Strictness.plain.toJson) := by
  refine ⟨⟨Strictness.structsAreObjects_misspelt, Strictness.fromJson_misspelt, ?_⟩,
    Strictness.structsAreObjects_annotated, Strictness.fromJson_annotated, ?_⟩
  · intro kept
    have lost := kept [.key "states", .index 0, .key "dead_line"] (.string "5s") trivial rfl
    cases lost
  · intro kept
    have lost := kept [.key "endpoints", .index 0, .key "states", .index 0, .key "next"]
      (.string "ask") trivial rfl
    cases lost

end Colloq

