import Colloq.Codec
import Colloq.Dictionary
import Colloq.PlanMachine
import Colloq.Refinement

/-!
# The wire round trip

What a decoder makes of an encoded envelope, in either encoding. Everything
survives but a `null` payload: it is written, and read back as no payload.
-/

namespace Colloq

open Serde

/-- What an `Option<Value>` field reads back. -/
def receivedPayload (payload : Option Value) : Option Value :=
  payload.filter fun value => value ≠ .null

def Frame.received : Frame → Frame
  | .data sender receiver message payload =>
      .data sender receiver message (receivedPayload payload)
  | frame => frame

def WireEnvelope.received (envelope : WireEnvelope) : WireEnvelope :=
  { envelope with frame := envelope.frame.received }

theorem Frame.received_eq_iff {frame : Frame} : frame.received = frame ↔
    ∀ sender receiver message, frame ≠ .data sender receiver message (some .null) := by
  cases frame with
  | data sender receiver message payload =>
      rcases payload with _ | value
      · simp [received, receivedPayload]
      · by_cases empty : value = .null
        · simp [received, receivedPayload, empty]
        · simp [received, receivedPayload, empty, Option.filter]
  | _ => simp [received]

theorem WireEnvelope.received_eq_iff {envelope : WireEnvelope} :
    envelope.received = envelope ↔ envelope.frame.received = envelope.frame := by
  cases envelope
  simp [received]

def Frame.payload : Frame → Option Value
  | .data _ _ _ payload => payload
  | _ => none

/-- The frame with another payload, if it is one that has a payload. -/
def Frame.withPayload (payload : Option Value) : Frame → Frame
  | .data sender receiver message _ => .data sender receiver message payload
  | frame => frame

def WireEnvelope.withPayload (envelope : WireEnvelope) (payload : Option Value) : WireEnvelope :=
  { envelope with frame := envelope.frame.withPayload payload }

theorem Frame.payload_withPayload {frame : Frame} {payload : Option Value}
    (absent : frame.payload = none → payload = none) :
    (frame.withPayload payload).payload = payload := by
  cases frame with
  | data => rfl
  | _ => exact (absent rfl).symm

@[simp]
theorem WireEnvelope.withPayload_self (envelope : WireEnvelope) :
    envelope.withPayload envelope.frame.payload = envelope := by
  rcases envelope with ⟨_, _, _, _, _, frame⟩
  cases frame <;> rfl

/-! ## Documents -/

theorem Value.json_eq_null_iff {value : Value} : value.json = .null ↔ value = .null := by
  constructor
  · intro empty
    rcases value with ⟨json, canonical⟩
    subst empty
    rfl
  · rintro rfl
    rfl

/-- A payload that is written comes back as it is received. -/
theorem readNullable_value (value : Value) :
    readNullable readValue value.json = .ok (receivedPayload (some value)) := by
  by_cases empty : value = .null
  · subst empty
    rfl
  · have notNull := Value.json_eq_null_iff.not.mpr empty
    have present : readNullable readValue value.json = some <$> readValue value.json := by
      unfold readNullable
      split
      · exact absurd ‹_› notNull
      · rfl
    rw [present, readValue, Value.fromJson_json, receivedPayload, Option.filter_some_pos (by simpa)]
    rfl

theorem Frame.fromJson_toJson (frame : Frame) :
    Frame.fromJson frame.toJson = .ok frame.received := by
  cases frame with
  | data sender receiver message payload =>
      rcases payload with _ | value
      · simp [fromJson, toJson, readTagged_object, readStruct_object, skipNone, received,
          receivedPayload, bind, Except.bind, pure, Except.pure]
      · simp [fromJson, toJson, readTagged_object, readStruct_object, skipNone, received,
          readNullable_value, bind, Except.bind, pure, Except.pure]
  | _ =>
      simp [fromJson, toJson, readTagged_object, readStruct_object, received, bind, Except.bind,
        pure, Except.pure]

theorem WireEnvelope.fromJson_toJson (envelope : WireEnvelope) :
    WireEnvelope.fromJson envelope.toJson = .ok envelope.received := by
  simp [fromJson, toJson, readStruct_object, Frame.fromJson_toJson, received, bind, Except.bind,
    pure, Except.pure]

theorem CompactEnvelope.fromJson_toJson (compact : CompactEnvelope) :
    CompactEnvelope.fromJson compact.toJson =
      .ok { compact with payload := receivedPayload compact.payload } := by
  rcases compact with ⟨transition, sequence, payload⟩
  rcases payload with _ | value
  · simp [fromJson, toJson, readStruct_object, skipNone, receivedPayload, bind, Except.bind, pure,
      Except.pure]
  · simp [fromJson, toJson, readStruct_object, skipNone, readNullable_value, bind, Except.bind,
      pure, Except.pure]

section Documents

variable {crates : Crates}

/-- Encoding fails only for a document that is too large. -/
theorem encodeDocument_eq_ok_iff {document : Json} {encoded : List UInt8} :
    encodeDocument crates document = .ok encoded ↔
      (crates.toVec document).length ≤ maxEnvelopeBytes ∧ encoded = crates.toVec document := by
  rw [encodeDocument, Checked.check_bind_eq_ok_iff, Checked.ensure_eq_ok_iff]
  simp [pure, Except.pure, eq_comm]

theorem decodeDocument_of_encodeDocument {α : Type} {read : Json → Except String α}
    {document received : Json} {encoded : List UInt8}
    (reads : crates.fromSlice (crates.toVec document) = .ok received)
    (written : encodeDocument crates document = .ok encoded) :
    decodeDocument crates read encoded = (read received).mapError .codec := by
  rcases encodeDocument_eq_ok_iff.mp written with ⟨fits, rfl⟩
  simp [decodeDocument, Checked.ensure, fits, reads, Except.mapError, bind, Except.bind]

theorem decodeDocument_of_unread {α : Type} {read : Json → Except String α} {document : Json}
    {error : String} {encoded : List UInt8}
    (unread : crates.fromSlice (crates.toVec document) = .error error)
    (written : encodeDocument crates document = .ok encoded) :
    decodeDocument crates read encoded = .error (.codec error) := by
  rcases encodeDocument_eq_ok_iff.mp written with ⟨fits, rfl⟩
  simp [decodeDocument, Checked.ensure, fits, unread, Except.mapError, bind, Except.bind]

/-- What is written for an envelope whose entry in the dictionary has that id. -/
def WireEnvelope.document (envelope : WireEnvelope) (transition : UInt16) : WireEncoding → Json
  | .reference => envelope.toJson
  | .compact => CompactEnvelope.toJson
      { transition, sequence := envelope.sequence, payload := envelope.frame.payload }

/-- The text layer reads the document of the envelope, with the payload as it is given. -/
structure WireEnvelope.ReadAs (crates : Crates) (encoding : WireEncoding) (envelope : WireEnvelope)
    (payload : Option Value) : Prop where
  document : ∀ transition,
    crates.fromSlice (crates.toVec (envelope.document transition encoding)) =
      .ok ((envelope.withPayload payload).document transition encoding)
  absent : envelope.frame.payload = none → payload = none

variable {encoding : WireEncoding} {envelope : WireEnvelope}

theorem Crates.Lossless.readAs (lossless : crates.Lossless) :
    envelope.ReadAs crates encoding envelope.frame.payload where
  document transition := by rw [lossless, WireEnvelope.withPayload_self]
  absent := id

/-- Payloads without floats that are nested less than 126 deep are read back. -/
theorem Crates.ReadsBack.readAs (reads : crates.ReadsBack)
    (plain : ∀ payload ∈ envelope.frame.payload, payload.json.Plain 125) :
    envelope.ReadAs crates encoding envelope.frame.payload where
  document transition := by
    rw [WireEnvelope.withPayload_self]
    apply reads
    cases encoding with
    | reference =>
        cases frame : envelope.frame with
        | data sender receiver message payload =>
            rcases payload with _ | value
            · simp [WireEnvelope.document, WireEnvelope.toJson, frame, Frame.toJson, skipNone]
            · have small := plain value (by simp [frame, Frame.payload])
              simp [WireEnvelope.document, WireEnvelope.toJson, frame, Frame.toJson, skipNone,
                small]
        | _ => simp [WireEnvelope.document, WireEnvelope.toJson, frame, Frame.toJson]
    | compact =>
        rcases payload : envelope.frame.payload with _ | value
        · simp [WireEnvelope.document, CompactEnvelope.toJson, payload, skipNone]
        · have small := (plain value payload).mono (by decide : 125 ≤ 126)
          simp [WireEnvelope.document, CompactEnvelope.toJson, payload, skipNone, small]
  absent := id

theorem decodeEnvelope_of_encodeEnvelope {payload : Option Value}
    (reads : envelope.ReadAs crates .reference payload) {encoded : List UInt8}
    (written : encodeEnvelope crates envelope = .ok encoded) :
    decodeEnvelope crates encoded = .ok (envelope.withPayload payload).received := by
  rw [decodeEnvelope, decodeDocument_of_encodeDocument (reads.document 0) written,
    WireEnvelope.document, WireEnvelope.fromJson_toJson]
  rfl

end Documents

/-! ## The dictionary of a prepared plan -/

/-- The operation of a frame on the wire. -/
def Frame.operation : Frame → Option WireOperation
  | .data sender receiver message _ => some (.data sender receiver message)
  | .select chooser label => some (.select chooser label)
  | .cancel sender receiver scope => some (.cancel sender receiver scope)
  | .fault .. => none

theorem transitionMatches_iff {transition : WireTransition} {envelope : WireEnvelope} :
    transitionMatches transition envelope = true ↔
      transition.state = envelope.state ∧
        envelope.frame.operation = some transition.operation := by
  rcases transition with ⟨id, state, operation⟩
  unfold transitionMatches
  by_cases same : state = envelope.state
  · cases operation <;> cases envelope.frame <;> simp [same, Frame.operation] <;> grind
  · simp [same]

/-- The entry and the payload of a frame make the frame again, as it is received. -/
theorem rebuildFrame_eq_ok {frame : Frame} {operation : WireOperation}
    (same : frame.operation = some operation) (compact : CompactEnvelope)
    (payloadEq : compact.payload = receivedPayload frame.payload) :
    rebuildFrame compact operation = .ok frame.received := by
  cases frame with
  | fault => simp [Frame.operation] at same
  | data =>
      rcases Option.some.inj same with rfl
      simp [rebuildFrame, payloadEq, Frame.payload, Frame.received]
  | _ =>
      rcases Option.some.inj same with rfl
      simp [rebuildFrame, rejectControlPayload, payloadEq, Frame.payload, Frame.received,
        receivedPayload, Checked.ensure, bind, Except.bind, pure, Except.pure]

@[simp]
theorem Frame.operation_withPayload (frame : Frame) (payload : Option Value) :
    (frame.withPayload payload).operation = frame.operation := by
  cases frame <;> rfl

/-- Whatever a state emits is among the operations that it contributes. -/
theorem EndpointState.operation_of_emitFrame {role : String} {state : EndpointState}
    {action : EndpointMachine.Action} {frame : Frame} {next : String}
    (emitted : state.emitFrame role action = some (frame, next)) :
    ∃ operation ∈ state.operations role, frame.operation = some operation := by
  unfold emitFrame at emitted
  split at emitted
  · rcases Prod.mk.inj (Option.some.inj emitted) with ⟨rfl, _⟩
    exact ⟨_, List.mem_singleton_self _, rfl⟩
  · rcases Option.map_eq_some_iff.mp emitted with ⟨target, declared, same⟩
    rcases Prod.mk.inj same with ⟨rfl, _⟩
    refine ⟨_, List.mem_map_of_mem (Std.ExtTreeMap.mem_keys.mpr ?_), rfl⟩
    exact Std.ExtTreeMap.mem_iff_isSome_getElem?.mpr (by simp [declared])
  · rcases Prod.mk.inj (Option.some.inj emitted) with ⟨rfl, _⟩
    exact ⟨_, List.mem_singleton_self _, rfl⟩
  · simp at emitted

/-- The payload of an emitted frame is the one that the action was given. -/
theorem EndpointState.emitFrame_payload_iff {role : String} {state : EndpointState}
    {action : EndpointMachine.Action} {frame : Frame} {next : String}
    (emitted : state.emitFrame role action = some (frame, next)) :
    (∀ sender receiver message, frame ≠ .data sender receiver message (some .null)) ↔
      action ≠ .data .null := by
  unfold emitFrame at emitted
  split at emitted
  · rcases Prod.mk.inj (Option.some.inj emitted) with ⟨rfl, _⟩
    simp
  · rcases Option.map_eq_some_iff.mp emitted with ⟨target, declared, same⟩
    rcases Prod.mk.inj same with ⟨rfl, _⟩
    simp
  · rcases Prod.mk.inj (Option.some.inj emitted) with ⟨rfl, _⟩
    simp
  · simp at emitted

/-- An envelope under the header of the plan, with a transition in its dictionary. -/
structure PreparedPlan.Carries (plan : PreparedPlan) (envelope : WireEnvelope) : Prop where
  version : envelope.colloqWire = wireFormat
  conversation_eq : envelope.conversation = plan.conversation
  identity_eq : envelope.conversationIdentity = plan.conversationIdentity
  transition : ∃ transition ∈ plan.wire.transitions, transition.state = envelope.state ∧
    envelope.frame.operation = some transition.operation

namespace PreparedPlan.Sound

variable {plan : PreparedPlan} (sound : plan.Sound)

include sound

theorem wire_eq : (collectTransitions plan.endpoints).size < UInt16.size ∧
    plan.wire = { encoding := compactWireFormat,
                  transitions := numbered 0 (collectTransitions plan.endpoints).toList } :=
  deriveWirePlan_eq_ok_iff.mp sound.wire

/-- Every operation of every endpoint has its entry. -/
theorem exists_transition {endpoint : Endpoint} (endpointMem : endpoint ∈ plan.endpoints)
    {state : EndpointState} (stateMem : state ∈ endpoint.states) {operation : WireOperation}
    (contributed : operation ∈ state.operations endpoint.role) :
    ∃ transition ∈ plan.wire.transitions, transition.state = state.id ∧
      transition.operation = operation := by
  have collected : (state.id, operation) ∈ (collectTransitions plan.endpoints).toList := by
    rw [Std.ExtTreeSet.mem_toList, collectTransitions, mem_transitionSet_ofList]
    exact List.mem_flatMap.mpr ⟨endpoint, endpointMem, List.mem_flatMap.mpr
      ⟨state, stateMem, List.mem_map_of_mem contributed⟩⟩
  rw [← map_entry_numbered 0 (collectTransitions plan.endpoints).toList] at collected
  rcases List.mem_map.mp collected with ⟨transition, member, entry⟩
  rcases Prod.mk.inj entry with ⟨stateEq, operationEq⟩
  refine ⟨transition, ?_, stateEq, operationEq⟩
  rw [sound.wire_eq.2]
  exact member

/-- Ids are dense, so the entry with an id is the entry at its index. -/
theorem lookup_id (codec : CompactWireCodec) (sameWire : codec.wire = plan.wire)
    {transition : WireTransition} (member : transition ∈ plan.wire.transitions) :
    codec.lookup transition.id = some transition := by
  rcases sound.wire_eq with ⟨fits, wireEq⟩
  rw [← Std.ExtTreeSet.length_toList] at fits
  have entries := congrArg CompactWirePlan.transitions wireEq
  rw [entries] at member
  rcases List.getElem_of_mem member with ⟨index, bound, rfl⟩
  have id := toNat_id_numbered fits bound
  have nonzero : (numbered 0 (collectTransitions plan.endpoints).toList)[index].id ≠ 0 := by
    intro zero
    rw [zero] at id
    simp at id
  rw [CompactWireCodec.lookup, if_neg nonzero, sameWire, entries, id, Nat.add_sub_cancel,
    List.getElem?_eq_getElem bound]
  simp

theorem carries_of_perform {machine after : EndpointMachine} (runs : machine.Runs plan)
    {action : EndpointMachine.Action} {envelope : WireEnvelope}
    (performed : machine.perform action = some (.ok envelope, after)) :
    plan.Carries envelope := by
  rcases EndpointMachine.perform_eq_ok_iff.mp performed with
    ⟨state, frame, next, present, emitted, rfl, _⟩
  rcases EndpointState.operation_of_emitFrame emitted with ⟨operation, contributed, operationEq⟩
  rcases sound.exists_transition runs.endpoint_mem
    (List.mem_of_find?_eq_some present) contributed with ⟨transition, member, stateEq, rfl⟩
  refine ⟨rfl, (sound.endpoints _ runs.endpoint_mem).conversation_eq, runs.identity_eq,
    transition, member, ?_, operationEq⟩
  rw [stateEq]
  change state.id = machine.current
  simpa using List.find?_some present

end PreparedPlan.Sound

namespace PreparedPlan.Carries

variable {crates : Crates} {plan : PreparedPlan} {envelope : WireEnvelope}
  (carries : plan.Carries envelope)

include carries

/-- The compact encoder of the plan writes an entry of the envelope. -/
theorem encode_compact (crates : Crates) :
    ∃ transition ∈ plan.wire.transitions, transition.state = envelope.state ∧
      envelope.frame.operation = some transition.operation ∧
      (EnvelopeCodec.forPlan .compact plan).encode crates envelope =
        encodeCompactEnvelope crates
          { transition := transition.id, sequence := envelope.sequence,
            payload := envelope.frame.payload } := by
  rcases carries.transition with ⟨entry, entryMem, entryState, entryOperation⟩
  have matched : (plan.wire.transitions.find? fun transition =>
      transitionMatches transition envelope).isSome = true :=
    List.find?_isSome.mpr ⟨entry, entryMem, transitionMatches_iff.mpr
      ⟨entryState, entryOperation⟩⟩
  rcases Option.isSome_iff_exists.mp matched with ⟨transition, found⟩
  have member := List.mem_of_find?_eq_some found
  rcases transitionMatches_iff.mp
    (List.find?_some (p := fun transition => transitionMatches transition envelope) found) with
    ⟨state_eq, operation_eq⟩
  refine ⟨transition, member, state_eq, operation_eq, ?_⟩
  simp only [EnvelopeCodec.encode, EnvelopeCodec.forPlan, CompactWireCodec.encode,
    Checked.ensure, carries.version, carries.conversation_eq, carries.identity_eq, if_true, found]
  cases frame : envelope.frame with
  | fault => simp [frame, Frame.operation] at operation_eq
  | _ => rfl

/-- Encoding fails only for an envelope that is too large. -/
theorem encode_eq_error {encoding : WireEncoding} {error : RuntimeError}
    (failed : (EnvelopeCodec.forPlan encoding plan).encode crates envelope = .error error) :
    ∃ actual, error = .envelopeTooLarge actual maxEnvelopeBytes := by
  have tooLarge : ∀ {document}, encodeDocument crates document = .error error →
      ∃ actual, error = .envelopeTooLarge actual maxEnvelopeBytes := by
    intro document failed
    by_cases fits : (crates.toVec document).length ≤ maxEnvelopeBytes
    · rw [encodeDocument_eq_ok_iff.mpr ⟨fits, rfl⟩] at failed
      simp at failed
    · simp only [encodeDocument, Checked.ensure, if_neg fits] at failed
      exact ⟨_, (Except.error.inj failed).symm⟩
  cases encoding with
  | reference => exact tooLarge failed
  | compact =>
      rcases carries.encode_compact crates with ⟨_, _, _, _, encodeEq⟩
      rw [encodeEq] at failed
      exact tooLarge failed

/-- Decoding fails if the text layer reads none of the documents of the envelope. -/
theorem exists_decode_error {encoding : WireEncoding}
    (unread : ∀ transition, ∃ error,
      crates.fromSlice (crates.toVec (envelope.document transition encoding)) = .error error)
    {encoded : List UInt8}
    (written : (EnvelopeCodec.forPlan encoding plan).encode crates envelope = .ok encoded) :
    ∃ error, (EnvelopeCodec.forPlan encoding plan).decode crates encoded = .error error := by
  cases encoding with
  | reference =>
      rcases unread 0 with ⟨error, failed⟩
      have read : decodeEnvelope crates encoded = _ :=
        decodeDocument_of_unread failed written
      exact ⟨_, read⟩
  | compact =>
      rcases carries.encode_compact crates with ⟨transition, _, _, _, encodeEq⟩
      rw [encodeEq] at written
      rcases unread transition.id with ⟨error, failed⟩
      have read : decodeDocument crates CompactEnvelope.fromJson encoded = _ :=
        decodeDocument_of_unread failed written
      refine ⟨.codec error, ?_⟩
      simp only [EnvelopeCodec.decode, EnvelopeCodec.forPlan, CompactWireCodec.decode, read]
      rfl

/-- In either encoding, what is written is read back as it is received. -/
theorem decode_of_encode (sound : plan.Sound) {payload : Option Value} {encoding : WireEncoding}
    (reads : envelope.ReadAs crates encoding payload) {encoded : List UInt8}
    (written : (EnvelopeCodec.forPlan encoding plan).encode crates envelope = .ok encoded) :
    (EnvelopeCodec.forPlan encoding plan).decode crates encoded =
      .ok (envelope.withPayload payload).received := by
  cases encoding with
  | reference => exact decodeEnvelope_of_encodeEnvelope reads written
  | compact =>
      rcases carries.encode_compact crates with
        ⟨transition, member, state_eq, operation_eq, encodeEq⟩
      rw [encodeEq] at written
      have read : decodeDocument crates CompactEnvelope.fromJson encoded = _ :=
        decodeDocument_of_encodeDocument (reads.document transition.id) written
      rw [WireEnvelope.document, CompactEnvelope.fromJson_toJson] at read
      have found := sound.lookup_id
        { conversation := plan.conversation, conversationIdentity := plan.conversationIdentity
          planIdentity := plan.planIdentity, wire := plan.wire } rfl member
      have rebuilt := rebuildFrame_eq_ok
        ((envelope.frame.operation_withPayload payload).trans operation_eq)
        { transition := transition.id, sequence := (envelope.withPayload payload).sequence
          payload := receivedPayload (envelope.withPayload payload).frame.payload } rfl
      simp only [EnvelopeCodec.decode, EnvelopeCodec.forPlan, CompactWireCodec.decode, read,
        Except.mapError, bind, Except.bind, found, rebuilt, state_eq]
      simp only [← carries.version, ← carries.conversation_eq, ← carries.identity_eq]
      rfl

end PreparedPlan.Carries

/-- An emitted envelope keeps its payload on the wire exactly if that is not `null`. -/
theorem EndpointMachine.received_eq_iff_of_perform {machine after : EndpointMachine}
    {action : Action} {envelope : WireEnvelope}
    (performed : machine.perform action = some (.ok envelope, after)) :
    envelope.received = envelope ↔ action ≠ .data .null := by
  rw [WireEnvelope.received_eq_iff, Frame.received_eq_iff]
  rcases EndpointMachine.perform_eq_ok_iff.mp performed with
    ⟨state, frame, next, present, emitted, sealed, _⟩
  rw [sealed]
  exact EndpointState.emitFrame_payload_iff emitted

/-- Only the payload of an action gets into the frame that it emits. -/
theorem EndpointMachine.payload_of_perform {machine after : EndpointMachine} {action : Action}
    {envelope : WireEnvelope} (performed : machine.perform action = some (.ok envelope, after)) :
    ∀ payload ∈ envelope.frame.payload, action = .data payload := by
  rcases EndpointMachine.perform_eq_ok_iff.mp performed with
    ⟨state, frame, next, present, emitted, rfl, _⟩
  intro payload member
  change payload ∈ frame.payload at member
  unfold EndpointState.emitFrame at emitted
  split at emitted
  · rcases Prod.mk.inj (Option.some.inj emitted) with ⟨rfl, _⟩
    rw [Option.some.inj member]
  · rcases Option.map_eq_some_iff.mp emitted with ⟨target, declared, same⟩
    rcases Prod.mk.inj same with ⟨rfl, _⟩
    simp [Frame.payload] at member
  · rcases Prod.mk.inj (Option.some.inj emitted) with ⟨rfl, _⟩
    simp [Frame.payload] at member
  · simp at emitted

/-! ## Plain actions -/

/-- A payload is not `null`, has no floats and is nested less than 126 deep. -/
def EndpointMachine.Action.Plain (action : Action) : Prop :=
  ∀ payload, action = .data payload → payload ≠ .null ∧ payload.json.Plain 125

namespace EndpointMachine.Action

@[simp]
theorem plain_select (label : String) : (select label).Plain := by simp [Plain]

@[simp]
theorem plain_cancel : cancel.Plain := by simp [Plain]

@[simp]
theorem plain_data_iff {payload : Value} :
    (data payload).Plain ↔ payload ≠ .null ∧ payload.json.Plain 125 := by
  simp [Plain]

theorem Plain.ne_null {action : Action} (plain : action.Plain) : action ≠ .data .null :=
  fun same => (plain .null same).1 rfl

end EndpointMachine.Action

section Plain

variable {crates : Crates} {machine after : EndpointMachine} {action : EndpointMachine.Action}
  {envelope : WireEnvelope} (reads : crates.ReadsBack)
  (performed : machine.perform action = some (.ok envelope, after)) (plain : action.Plain)

include performed plain

theorem EndpointMachine.received_of_plain : envelope.received = envelope :=
  (EndpointMachine.received_eq_iff_of_perform performed).mpr plain.ne_null

include reads

theorem EndpointMachine.readAs_of_plain {encoding : WireEncoding} :
    envelope.ReadAs crates encoding envelope.frame.payload :=
  reads.readAs fun payload member =>
    (plain payload (EndpointMachine.payload_of_perform performed payload member)).2

theorem decodeEnvelope_of_plain {encoded : List UInt8}
    (written : encodeEnvelope crates envelope = .ok encoded) :
    decodeEnvelope crates encoded = .ok envelope := by
  rw [decodeEnvelope_of_encodeEnvelope (EndpointMachine.readAs_of_plain reads performed plain)
    written, WireEnvelope.withPayload_self, EndpointMachine.received_of_plain performed plain]

/-- A plain action arrives as it was performed, in either encoding. -/
theorem PreparedPlan.Carries.decode_of_plain {plan : PreparedPlan}
    (carries : plan.Carries envelope) (sound : plan.Sound) {encoding : WireEncoding}
    {encoded : List UInt8}
    (written : (EnvelopeCodec.forPlan encoding plan).encode crates envelope = .ok encoded) :
    (EnvelopeCodec.forPlan encoding plan).decode crates encoded = .ok envelope := by
  rw [carries.decode_of_encode sound (EndpointMachine.readAs_of_plain reads performed plain)
    written, WireEnvelope.withPayload_self, EndpointMachine.received_of_plain performed plain]

end Plain

/-- In either encoding, an emitted envelope comes back as it was exactly when its payload is
not `null`. -/
theorem wire_round_trip_iff (crates : Crates) (lossless : crates.Lossless) (plan : PreparedPlan)
    (built : plan.Built crates) (encoding : WireEncoding) (role : String)
    (start machine after : EndpointMachine)
    (created : EndpointMachine.fromPlan plan role = .ok start)
    (reached : Relation.ReflTransGen EndpointMachine.Step start machine)
    (action : EndpointMachine.Action) (envelope : WireEnvelope)
    (performed : machine.perform action = some (.ok envelope, after)) (encoded : List UInt8)
    (written : (EnvelopeCodec.forPlan encoding plan).encode crates envelope = .ok encoded) :
    (EnvelopeCodec.forPlan encoding plan).decode crates encoded = .ok envelope ↔
      action ≠ .data .null := by
  have sound := built.sound
  have runs := (EndpointMachine.runs_of_fromPlan created).steps reached
  have carries := sound.carries_of_perform runs performed
  rw [carries.decode_of_encode sound lossless.readAs written,
    WireEnvelope.withPayload_self, Except.ok.injEq]
  exact EndpointMachine.received_eq_iff_of_perform performed

/-! ## A payload at the question of the inquiry -/

section Inquiry

open EndpointMachine

def inquiryPlan : PreparedPlan := Conversation.inquiry.preparedPlan .reference

theorem built_inquiryPlan : inquiryPlan.Built .reference :=
  .compile (Conversation.preparedPlan_compile_eq_ok_iff.mpr ⟨Conversation.compilable_inquiry, rfl⟩)

def inquirer : EndpointMachine := Conversation.inquiry.initialMachine .reference "client"

theorem created_inquirer : fromPlan inquiryPlan "client" = .ok inquirer :=
  Conversation.fromPlan_preparedPlan_eq_ok_iff.mpr
    ⟨by simp [Conversation.HasRole, Conversation.inquiry], rfl⟩

theorem executes_inquirer : inquirer.Executes .inquiry :=
  Conversation.compilable_inquiry.executes_initialMachine
    (by simp [Conversation.HasRole, Conversation.inquiry])

theorem next_ask :
    Conversation.inquiry.next "offer" (.select "client" "ask") = some "question" := by
  rfl

theorem next_text (payload : Value) :
    Conversation.inquiry.next "question" (.data "client" "server" "text" (some payload)) =
      some "done" := by
  rfl

theorem perform_ask : inquirer.perform (.select "ask") =
    some (.ok (inquirer.envelope (.select "client" "ask")), inquirer.moved "question") :=
  executes_inquirer.perform_eq_ok_iff.mpr
    ⟨.select "client" "ask", "question", rfl, rfl, next_ask, rfl, rfl⟩

/-- The envelope of a payload that the client sends to the server. -/
def questionEnvelope (payload : Value) : WireEnvelope :=
  (inquirer.moved "question").envelope (.data "client" "server" "text" (some payload))

theorem perform_question (payload : Value) :
    (inquirer.moved "question").perform (.data payload) =
      some (.ok (questionEnvelope payload), (inquirer.moved "question").moved "done") := by
  have executes := executes_inquirer.moved
    (Conversation.compilable_inquiry.toWellFormed.hasState_next next_ask)
  exact executes.perform_eq_ok_iff.mpr
    ⟨.data "client" "server" "text" (some payload), "done", rfl, rfl, next_text payload, rfl, rfl⟩

theorem transitions_inquiry : Conversation.inquiry.compiledWire.transitions =
    [⟨1, "offer", .select "client" "again"⟩, ⟨2, "offer", .select "client" "ask"⟩,
      ⟨3, "question", .data "client" "server" "text"⟩] := by
  rfl

def questionDocument (payload : Value) : Json :=
  CompactEnvelope.toJson { transition := 3, sequence := 1, payload := some payload }

theorem reached_question :
    Relation.ReflTransGen Step inquirer (inquirer.moved "question") :=
  .single (.perform perform_ask)

/-- The compact encoder writes the entry that has the operation of the frame. -/
theorem encode_inquiry {envelope : WireEnvelope} (carries : inquiryPlan.Carries envelope)
    {transition : WireTransition}
    (listed : transition ∈ Conversation.inquiry.compiledWire.transitions)
    (same : envelope.frame.operation = some transition.operation) :
    (EnvelopeCodec.forPlan .compact inquiryPlan).encode .reference envelope =
      encodeCompactEnvelope .reference
        { transition := transition.id, sequence := envelope.sequence
          payload := envelope.frame.payload } := by
  rcases carries.encode_compact .reference with ⟨entry, member, _, operation_eq, encodeEq⟩
  change entry ∈ Conversation.inquiry.compiledWire.transitions at member
  have distinct : ∀ first ∈ Conversation.inquiry.compiledWire.transitions,
      ∀ second ∈ Conversation.inquiry.compiledWire.transitions,
        first.operation = second.operation → first = second := by
    rw [transitions_inquiry]
    simp
  rw [encodeEq, distinct entry member transition listed
    (Option.some.inj (operation_eq.symm.trans same))]

theorem encode_question {payload : Value}
    (small : (JsonText.encode (questionDocument payload)).length ≤ maxEnvelopeBytes) :
    (EnvelopeCodec.forPlan .compact inquiryPlan).encode .reference (questionEnvelope payload) =
      .ok (JsonText.encode (questionDocument payload)) := by
  have runs := (runs_of_fromPlan created_inquirer).steps reached_question
  have carries := built_inquiryPlan.sound.carries_of_perform runs (perform_question payload)
  have listed : ⟨3, "question", .data "client" "server" "text"⟩ ∈
      Conversation.inquiry.compiledWire.transitions := by simp [transitions_inquiry]
  rw [encode_inquiry carries listed rfl]
  exact encodeDocument_eq_ok_iff.mpr ⟨small, rfl⟩

/-- A `null` payload is sent, and arrives as a frame without a payload. -/
theorem round_trip_fails_for_null :
    ¬∀ (crates : Crates), crates.Lossless → ∀ plan : PreparedPlan, plan.Built crates →
      ∀ encoding role start machine after, fromPlan plan role = .ok start →
        Relation.ReflTransGen Step start machine →
        ∀ action envelope, machine.perform action = some (.ok envelope, after) →
          ∀ encoded, (EnvelopeCodec.forPlan encoding plan).encode crates envelope = .ok encoded →
            (EnvelopeCodec.forPlan encoding plan).decode crates encoded = .ok envelope := by
  intro roundTrip
  have written : (EnvelopeCodec.forPlan .compact inquiryPlan).encode .reference
      (questionEnvelope .null) = _ := encode_question (by decide)
  have same := roundTrip .reference Crates.reference_lossless inquiryPlan built_inquiryPlan
    .compact "client" inquirer _ _ created_inquirer reached_question _ _ (perform_question .null)
    _ written
  have runs := (runs_of_fromPlan created_inquirer).steps reached_question
  have carries := built_inquiryPlan.sound.carries_of_perform runs (perform_question .null)
  rw [carries.decode_of_encode built_inquiryPlan.sound Crates.reference_lossless.readAs
    written, WireEnvelope.withPayload_self, Except.ok.injEq, WireEnvelope.received_eq_iff,
    Frame.received_eq_iff] at same
  exact same _ _ _ rfl

theorem wire_round_trip_iff_question :
    (EnvelopeCodec.forPlan .compact inquiryPlan).decode .reference
        (JsonText.encode (questionDocument ⟨.string "ready?", rfl⟩)) =
      .ok (questionEnvelope ⟨.string "ready?", rfl⟩) := by
  refine (wire_round_trip_iff .reference Crates.reference_lossless inquiryPlan built_inquiryPlan
    .compact "client" inquirer _ _ created_inquirer reached_question _ _ (perform_question _) _
    (encode_question (by decide))).mpr ?_
  nofun

end Inquiry

end Colloq
