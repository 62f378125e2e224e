import Colloq.Extent
import Colloq.Peers

/-!
# Compact sessions refine reference sessions

A script of local actions and deliveries drives the two machines of a plan, with
every envelope passed through a codec. The two codecs of the plan give the same run,
step by step, as long as no text is too large and no delivered payload is nested so
deep that the text layer reads it in the smaller of the two documents only.
-/

namespace Colloq

open TurnTaking (Side)

/-! ## Payloads as they are read -/

section Payloads

variable (read : FiniteFloat → Option FiniteFloat)

/-- The value with every float as it is read, if all of them can be read. -/
def Value.mapFloats (value : Value) : Option Value :=
  match same : value.json.mapFloats read with
  | none => none
  | some json => some ⟨json, Json.canonical_mapFloats same value.canonical⟩

def mapPayload : Option Value → Option (Option Value)
  | none => some none
  | some value => (value.mapFloats read).map some

/-- How deep the payload is nested. -/
def payloadDepth (payload : Option Value) : ℕ := payload.elim 0 fun value => value.json.depth

/-- How deep the payload sits in the document. -/
def WireEncoding.overhead : WireEncoding → ℕ
  | .reference => 2
  | .compact => 1

/-- The payload of the frame can be read one level deep, but not two. -/
def Frame.AtLimit (frame : Frame) : Prop :=
  payloadDepth frame.payload = 126 ∧ (mapPayload read frame.payload).isSome = true

variable {read}

theorem Value.mapFloats_json (value : Value) :
    value.json.mapFloats read = (value.mapFloats read).map Value.json := by
  unfold mapFloats
  split <;> simp_all

theorem mapPayload_some (payload : Option Value) : (mapPayload some payload).isSome = true := by
  rcases payload with _ | value
  · rfl
  · have mapped := @Value.mapFloats_json some value
    rw [Json.mapFloats_of_fixed fun _ _ => rfl] at mapped
    rcases Option.map_eq_some_iff.mp mapped.symm with ⟨same, mapped, _⟩
    rw [mapPayload, mapped]
    rfl

theorem Serde.mapFloats_skipNone (name : String) (payload : Option Value) :
    Json.mapFloatsMembers read (skipNone name payload) =
      (mapPayload read payload).map (skipNone name) := by
  rcases payload with _ | value
  · rfl
  · simp only [skipNone, mapPayload, Json.mapFloatsMembers, Value.mapFloats_json]
    cases value.mapFloats read <;> rfl

theorem Serde.depth_skipNone (name : String) (payload : Option Value) :
    Json.depthMembers (skipNone name payload) = payloadDepth payload := by
  cases payload <;> simp [skipNone, Json.depthMembers, payloadDepth]

variable (envelope : WireEnvelope) (transition : UInt16) (encoding : WireEncoding)

theorem WireEnvelope.depth_document :
    (envelope.document transition encoding).depth =
      payloadDepth envelope.frame.payload + encoding.overhead := by
  cases encoding with
  | reference =>
      rcases envelope with ⟨_, _, _, _, _, frame⟩
      cases frame <;>
        simp [document, toJson, Frame.toJson, Json.depth, Json.depthMembers, Serde.depth_skipNone,
          Frame.payload, WireEncoding.overhead, payloadDepth]
  | compact =>
      simp [document, CompactEnvelope.toJson, Json.depth, Json.depthMembers, Serde.depth_skipNone,
        WireEncoding.overhead]

/-- The payload is the only part of a document that can have floats. -/
theorem WireEnvelope.mapFloats_document :
    (envelope.document transition encoding).mapFloats read =
      (mapPayload read envelope.frame.payload).map fun payload =>
        (envelope.withPayload payload).document transition encoding := by
  cases encoding with
  | reference =>
      rcases envelope with ⟨_, _, _, _, _, frame⟩
      cases frame with
      | data sender receiver message payload =>
          simp only [document, toJson, Frame.toJson, Json.mapFloats, Json.mapFloatsMembers,
            List.cons_append, List.nil_append, Serde.mapFloats_skipNone, Frame.payload]
          cases mapPayload read payload <;> rfl
      | _ => rfl
  | compact =>
      simp only [document, CompactEnvelope.toJson, Json.mapFloats, Json.mapFloatsMembers,
        List.cons_append, List.nil_append, Serde.mapFloats_skipNone]
      rcases mapped : mapPayload read envelope.frame.payload with _ | payload
      · rfl
      · have absent : envelope.frame.payload = none → payload = none := by
          intro absent
          rw [absent] at mapped
          exact (Option.some.inj mapped).symm
        simp [withPayload, Frame.payload_withPayload absent]

end Payloads

section Limits

variable {crates : Crates} {read : FiniteFloat → Option FiniteFloat}
  (limits : crates.LimitsDepth read)

include limits

theorem Crates.LimitsDepth.exists_error {json : Json}
    (refused : ¬ json.depth ≤ 127 ∨ json.mapFloats read = none) :
    ∃ error, crates.fromSlice (crates.toVec json) = .error error := by
  have result := limits json
  have none_eq : (if json.depth ≤ 127 then json.mapFloats read else none) = none := by
    split_ifs with shallow
    · exact refused.resolve_left (not_not_intro shallow)
    · rfl
  rw [none_eq] at result
  cases decoded : crates.fromSlice (crates.toVec json) with
  | error error => exact ⟨error, rfl⟩
  | ok document => simp [decoded, Except.toOption] at result

variable {plan : PreparedPlan} {envelope : WireEnvelope} {encoding : WireEncoding}

theorem Crates.LimitsDepth.readAs {payload : Option Value}
    (shallow : payloadDepth envelope.frame.payload + encoding.overhead ≤ 127)
    (mapped : mapPayload read envelope.frame.payload = some payload) :
    envelope.ReadAs crates encoding payload where
  document transition := by
    apply limits.fromSlice_eq
    · rw [WireEnvelope.depth_document]
      exact shallow
    · rw [WireEnvelope.mapFloats_document, mapped]
      rfl
  absent := by
    intro absent
    rw [absent] at mapped
    exact (Option.some.inj mapped).symm

theorem PreparedPlan.Carries.toOption_decode_of_unread (carries : plan.Carries envelope)
    {encoded : List UInt8}
    (written : (EnvelopeCodec.forPlan encoding plan).encode crates envelope = .ok encoded)
    (refused : ¬ payloadDepth envelope.frame.payload + encoding.overhead ≤ 127 ∨
      mapPayload read envelope.frame.payload = none) :
    ((EnvelopeCodec.forPlan encoding plan).decode crates encoded).toOption = none := by
  have unread : ∀ transition, ∃ error, crates.fromSlice
      (crates.toVec (envelope.document transition encoding)) = .error error := by
    intro transition
    apply limits.exists_error
    rw [WireEnvelope.depth_document, WireEnvelope.mapFloats_document, Option.map_eq_none_iff]
    exact refused
  rcases carries.exists_decode_error unread written with ⟨error, failed⟩
  rw [failed]
  rfl

/-- A codec of the plan reads what it has written unless the payload sits too deep, or has a float
that is out of range. -/
theorem PreparedPlan.Carries.toOption_decode (carries : plan.Carries envelope) (sound : plan.Sound)
    {encoded : List UInt8}
    (written : (EnvelopeCodec.forPlan encoding plan).encode crates envelope = .ok encoded) :
    ((EnvelopeCodec.forPlan encoding plan).decode crates encoded).toOption =
      if payloadDepth envelope.frame.payload + encoding.overhead ≤ 127 then
        (mapPayload read envelope.frame.payload).map fun payload =>
          (envelope.withPayload payload).received
      else none := by
  have unread := carries.toOption_decode_of_unread limits written
  by_cases shallow : payloadDepth envelope.frame.payload + encoding.overhead ≤ 127
  · rw [if_pos shallow]
    cases mapped : mapPayload read envelope.frame.payload with
    | none => exact unread (.inr mapped)
    | some payload =>
        rw [carries.decode_of_encode sound (limits.readAs shallow mapped) written]
        rfl
  · rw [if_neg shallow]
    exact unread (.inl shallow)

/-- Unless the payload is at the limit, the two codecs decode the same. -/
theorem PreparedPlan.Carries.toOption_decode_eq (carries : plan.Carries envelope)
    (sound : plan.Sound) (clear : ¬ envelope.frame.AtLimit read) {text encoded : List UInt8}
    (compactly : (EnvelopeCodec.forPlan .compact plan).encode crates envelope = .ok text)
    (whole : (EnvelopeCodec.forPlan .reference plan).encode crates envelope = .ok encoded) :
    ((EnvelopeCodec.forPlan .compact plan).decode crates text).toOption =
      ((EnvelopeCodec.forPlan .reference plan).decode crates encoded).toOption := by
  rw [carries.toOption_decode limits sound compactly, carries.toOption_decode limits sound whole]
  rw [Frame.AtLimit, not_and, Option.not_isSome_iff_eq_none] at clear
  by_cases deep : payloadDepth envelope.frame.payload = 126
  · simp [clear deep]
  · have same : payloadDepth envelope.frame.payload + WireEncoding.compact.overhead ≤ 127 ↔
        payloadDepth envelope.frame.payload + WireEncoding.reference.overhead ≤ 127 := by
      simp only [WireEncoding.overhead]
      omega
    simp only [same]

end Limits

/-- The text layer as it is known, with the limit of `serde_json` on the nesting. -/
def Crates.limited : Crates where
  sha256 := Sha256.digest
  toVec := JsonText.encode
  fromSlice encoded := do
    let document ← JsonText.decode encoded
    Checked.ensure (document.depth ≤ 127) "recursion limit exceeded"
    return document

theorem Crates.limitsDepth_limited : Crates.limited.LimitsDepth some := by
  intro json
  have read : JsonText.decode (JsonText.encode json) = .ok json := JsonText.decode_encode json
  have same := @Json.mapFloats_of_fixed some json fun _ _ => rfl
  by_cases shallow : json.depth ≤ 127
  · simp [limited, read, Checked.ensure, shallow, same, bind, Except.bind, pure, Except.pure,
      Except.toOption]
  · simp [limited, read, Checked.ensure, shallow, bind, Except.bind, Except.toOption]

/-! ## Scripts -/

/-- One line of a script; a delivery names the text that was encoded at some index. -/
inductive Command where
  | perform (side : Side) (action : EndpointMachine.Action)
  | deliver (side : Side) (index : ℕ)
  | observeFailure (side : Side) (failure : String)

/-- What a command has led to; of a text that is not decoded, only that. -/
inductive Event where
  | panicked
  | refused (error : RuntimeError)
  | encodeFailed (error : RuntimeError)
  | encoded (envelope : WireEnvelope)
  | missing
  | decodeFailed
  | delivered (decoded : WireEnvelope) (result : Except RuntimeError Frame)
  | observed (result : Except RuntimeError Frame)

/-- An envelope, and the text that it was encoded to. -/
structure Sent where
  envelope : WireEnvelope
  text : List UInt8

/-- The two machines, and all that has been encoded. -/
structure Exchange where
  machine : Side → EndpointMachine
  wire : List Sent

/-- An event, and the machines after it. -/
structure Observation where
  event : Event
  machine : Side → EndpointMachine

namespace Exchange

section Runs

variable (crates : Crates) (codec : EnvelopeCodec)

def set (exchange : Exchange) (side : Side) (machine : EndpointMachine) : Exchange :=
  { exchange with machine := Function.update exchange.machine side machine }

def step (exchange : Exchange) : Command → Event × Exchange
  | .perform side action =>
    match (exchange.machine side).perform action with
    | none => (.panicked, exchange)
    | some (.error error, machine) => (.refused error, exchange.set side machine)
    | some (.ok envelope, machine) =>
      match codec.encode crates envelope with
      | .error error => (.encodeFailed error, exchange.set side machine)
      | .ok text =>
        (.encoded envelope,
          { exchange.set side machine with wire := exchange.wire ++ [⟨envelope, text⟩] })
  | .deliver side index =>
    match exchange.wire[index]? with
    | none => (.missing, exchange)
    | some sent =>
      match (codec.decode crates sent.text).toOption with
      | none => (.decodeFailed, exchange)
      | some envelope =>
        match (exchange.machine side).accept envelope with
        | none => (.panicked, exchange)
        | some (result, machine) => (.delivered envelope result, exchange.set side machine)
  | .observeFailure side failure =>
    match (exchange.machine side).observeFailure failure with
    | none => (.panicked, exchange)
    | some (result, machine) => (.observed result, exchange.set side machine)

def run (exchange : Exchange) : List Command → List Observation
  | [] => []
  | command :: script =>
    let outcome := exchange.step crates codec command
    { event := outcome.1, machine := outcome.2.machine } :: outcome.2.run script

/-- The command delivers no payload that only a smaller document has room for. -/
def Clear (read : FiniteFloat → Option FiniteFloat) (exchange : Exchange) : Command → Prop
  | .deliver _ index => ∀ sent ∈ exchange.wire[index]?, ¬ sent.envelope.frame.AtLimit read
  | .perform .. | .observeFailure .. => True

/-- So it is for every command of the script when its turn comes. -/
def StaysClear (read : FiniteFloat → Option FiniteFloat) : Exchange → List Command → Prop
  | _, [] => True
  | exchange, command :: script =>
    exchange.Clear read command ∧ (exchange.step crates codec command).2.StaysClear read script

end Runs

/-- No text of the run was too large to be sent. -/
def Fits (observations : List Observation) : Prop :=
  ∀ observation ∈ observations, ∀ actual limit,
    observation.event ≠ .encodeFailed (.envelopeTooLarge actual limit)

theorem step_deliver_ne_encodeFailed {crates : Crates} {codec : EnvelopeCodec}
    {exchange : Exchange} {side : Side} {index : ℕ} {error : RuntimeError} :
    (exchange.step crates codec (.deliver side index)).1 ≠ .encodeFailed error := by
  simp only [step]
  repeat' split
  all_goals simp

theorem step_deliver_wire {crates : Crates} {codec : EnvelopeCodec} {exchange : Exchange}
    {side : Side} {index : ℕ} :
    (exchange.step crates codec (.deliver side index)).2.wire = exchange.wire := by
  simp only [step]
  repeat' split
  all_goals rfl

theorem fits_cons {crates : Crates} {codec : EnvelopeCodec} {exchange : Exchange}
    {command : Command} {script : List Command} :
    Fits (exchange.run crates codec (command :: script)) ↔
      (∀ actual limit, (exchange.step crates codec command).1 ≠
        .encodeFailed (.envelopeTooLarge actual limit)) ∧
      Fits ((exchange.step crates codec command).2.run crates codec script) :=
  List.forall_mem_cons

variable {crates : Crates} {plan : PreparedPlan} {encoding : WireEncoding} {exchange : Exchange}

/-- Two machines of a plan, and encodings of envelopes that such machines emit. -/
structure Lawful (crates : Crates) (plan : PreparedPlan) (encoding : WireEncoding)
    (exchange : Exchange) : Prop where
  runs : ∀ side, (exchange.machine side).Runs plan
  carries : ∀ sent ∈ exchange.wire, plan.Carries sent.envelope
  written : ∀ sent ∈ exchange.wire,
    (EnvelopeCodec.forPlan encoding plan).encode crates sent.envelope = .ok sent.text

namespace Lawful

variable (lawful : exchange.Lawful crates plan encoding)

include lawful

theorem set {side : Side} {machine : EndpointMachine}
    (step : (exchange.machine side).Step machine) :
    (exchange.set side machine).Lawful crates plan encoding where
  runs := (Function.forall_update_iff _ fun _ (machine : EndpointMachine) =>
    machine.Runs plan).mpr ⟨(lawful.runs side).step step, fun one _ => lawful.runs one⟩
  carries := lawful.carries
  written := lawful.written

theorem send {envelope : WireEnvelope} {text : List UInt8} (carries : plan.Carries envelope)
    (written : (EnvelopeCodec.forPlan encoding plan).encode crates envelope = .ok text) :
    Lawful crates plan encoding { exchange with wire := exchange.wire ++ [⟨envelope, text⟩] } where
  runs := lawful.runs
  carries := List.forall_mem_append.mpr ⟨lawful.carries, List.forall_mem_singleton.mpr carries⟩
  written := List.forall_mem_append.mpr ⟨lawful.written, List.forall_mem_singleton.mpr written⟩

/-- A command keeps the two machines within the plan, and all texts as the codec has written them.
-/
theorem step (sound : plan.Sound) (command : Command) :
    (exchange.step crates (.forPlan encoding plan) command).2.Lawful crates plan encoding := by
  cases command with
  | perform side action =>
      rcases performed : (exchange.machine side).perform action with
        _ | ⟨error | envelope, machine⟩
      · simp only [Exchange.step, performed]
        exact lawful
      · simp only [Exchange.step, performed]
        exact lawful.set (.perform performed)
      · have carries := sound.carries_of_perform (lawful.runs side) performed
        have moved := lawful.set (.perform performed)
        rcases written : (EnvelopeCodec.forPlan encoding plan).encode crates envelope with
          error | text
        · simp only [Exchange.step, performed, written]
          exact moved
        · simp only [Exchange.step, performed, written]
          exact moved.send carries written
  | deliver side index =>
      simp only [Exchange.step]
      split
      · exact lawful
      · split
        · exact lawful
        · split
          · exact lawful
          · exact lawful.set (.accept ‹_›)
  | observeFailure side failure =>
      simp only [Exchange.step]
      split
      · exact lawful
      · exact lawful.set (.observeFailureAt ‹_›)

/-- Nothing but the size of a text makes an encoder fail. -/
theorem step_ne_encodeFailed (sound : plan.Sound) {command : Command}
    (fits : ∀ actual limit, (exchange.step crates (.forPlan encoding plan) command).1 ≠
      .encodeFailed (.envelopeTooLarge actual limit)) (error : RuntimeError) :
    (exchange.step crates (.forPlan encoding plan) command).1 ≠ .encodeFailed error := by
  intro failed
  cases command with
  | perform side action =>
      simp only [Exchange.step] at failed
      split at failed <;> try cases failed
      split at failed <;> cases failed
      rename_i performed _ unwritten
      rcases (sound.carries_of_perform (lawful.runs side) performed).encode_eq_error unwritten with
        ⟨actual, rfl⟩
      refine fits actual maxEnvelopeBytes ?_
      simp only [Exchange.step, performed, unwritten]
  | deliver side index =>
      simp only [Exchange.step] at failed
      repeat' split at failed
      all_goals cases failed
  | observeFailure side failure =>
      simp only [Exchange.step] at failed
      split at failed <;> cases failed

end Lawful

/-- No run of a plan fails to encode an envelope, as long as its texts are not too large. -/
theorem run_ne_encodeFailed (sound : plan.Sound) {script : List Command}
    (lawful : exchange.Lawful crates plan encoding)
    (fits : Fits (exchange.run crates (.forPlan encoding plan) script)) :
    ∀ observation ∈ exchange.run crates (.forPlan encoding plan) script, ∀ error,
      observation.event ≠ .encodeFailed error := by
  induction script generalizing exchange with
  | nil => simp [run]
  | cons command script ih =>
      rcases fits_cons.mp fits with ⟨headFits, tailFits⟩
      exact List.forall_mem_cons.mpr
        ⟨lawful.step_ne_encodeFailed sound headFits, ih (lawful.step sound command) tailFits⟩

/-- Two exchanges of a plan, over its two encodings, with the same machines and envelopes. -/
structure Mirrors (crates : Crates) (plan : PreparedPlan) (compact reference : Exchange) :
    Prop where
  compactLawful : compact.Lawful crates plan .compact
  referenceLawful : reference.Lawful crates plan .reference
  machine_eq : compact.machine = reference.machine
  envelopes_eq : compact.wire.map Sent.envelope = reference.wire.map Sent.envelope

namespace Mirrors

variable {compact reference : Exchange} (mirrors : Mirrors crates plan compact reference)

include mirrors

/-- At each index the two wires have texts of one envelope. -/
theorem exists_sent {index : ℕ} {sent : Sent} (kept : reference.wire[index]? = some sent) :
    ∃ text, compact.wire[index]? = some ⟨sent.envelope, text⟩ ∧ plan.Carries sent.envelope ∧
      (EnvelopeCodec.forPlan .compact plan).encode crates sent.envelope = .ok text ∧
      (EnvelopeCodec.forPlan .reference plan).encode crates sent.envelope = .ok sent.text := by
  have same := congrArg (·[index]?) mirrors.envelopes_eq
  simp only [List.getElem?_map, kept, Option.map_some] at same
  rcases Option.map_eq_some_iff.mp same with ⟨other, stored, sameEnvelope⟩
  have whole := mirrors.referenceLawful.written sent (List.mem_of_getElem? kept)
  rw [← sameEnvelope] at whole ⊢
  exact ⟨other.text, stored, mirrors.compactLawful.carries other (List.mem_of_getElem? stored),
    mirrors.compactLawful.written other (List.mem_of_getElem? stored), whole⟩

theorem missing {index : ℕ} (absent : reference.wire[index]? = none) :
    compact.wire[index]? = none := by
  have same := congrArg (·[index]?) mirrors.envelopes_eq
  simpa [List.getElem?_map, absent] using same

variable {read : FiniteFloat → Option FiniteFloat} (limits : crates.LimitsDepth read)
  (sound : plan.Sound) {command : Command}

include limits sound

/-- A command that delivers no payload at the limit has the same event in both. -/
theorem step_eq (clear : reference.Clear read command)
    (compactFits : ∀ actual limit, (compact.step crates (.forPlan .compact plan) command).1 ≠
      .encodeFailed (.envelopeTooLarge actual limit))
    (referenceFits : ∀ actual limit,
      (reference.step crates (.forPlan .reference plan) command).1 ≠
        .encodeFailed (.envelopeTooLarge actual limit)) :
    (compact.step crates (.forPlan .compact plan) command).1 =
        (reference.step crates (.forPlan .reference plan) command).1 ∧
      Mirrors crates plan (compact.step crates (.forPlan .compact plan) command).2
        (reference.step crates (.forPlan .reference plan) command).2 := by
  have compactLawful := mirrors.compactLawful.step sound command
  have referenceLawful := mirrors.referenceLawful.step sound command
  suffices same : (compact.step crates (.forPlan .compact plan) command).1 =
        (reference.step crates (.forPlan .reference plan) command).1 ∧
      (compact.step crates (.forPlan .compact plan) command).2.machine =
        (reference.step crates (.forPlan .reference plan) command).2.machine ∧
      (compact.step crates (.forPlan .compact plan) command).2.wire.map Sent.envelope =
        (reference.step crates (.forPlan .reference plan) command).2.wire.map Sent.envelope from
    ⟨same.1, compactLawful, referenceLawful, same.2.1, same.2.2⟩
  have unencoded := mirrors.compactLawful.step_ne_encodeFailed sound compactFits
  have referenceUnencoded := mirrors.referenceLawful.step_ne_encodeFailed sound referenceFits
  cases command with
  | perform side action =>
      rcases performed : (reference.machine side).perform action with
        _ | ⟨error | envelope, machine⟩
      · simp only [Exchange.step, mirrors.machine_eq, performed, mirrors.envelopes_eq, and_self]
      · simp only [Exchange.step, mirrors.machine_eq, performed, Exchange.set,
          mirrors.envelopes_eq, and_self]
      · simp only [Exchange.step, mirrors.machine_eq, performed] at unencoded referenceUnencoded ⊢
        rcases compactly : (EnvelopeCodec.forPlan .compact plan).encode crates envelope with
          error | text
        · exact absurd (by rw [compactly]) (unencoded error)
        · rcases whole : (EnvelopeCodec.forPlan .reference plan).encode crates envelope with
            error | encoded
          · exact absurd (by rw [whole]) (referenceUnencoded error)
          · simp [Exchange.set, mirrors.machine_eq, mirrors.envelopes_eq]
  | deliver side index =>
      rcases kept : reference.wire[index]? with _ | sent
      · simp only [Exchange.step, kept, mirrors.missing kept, mirrors.machine_eq,
          mirrors.envelopes_eq, and_self]
      · rcases mirrors.exists_sent kept with ⟨text, stored, carries, compactly, whole⟩
        have same := carries.toOption_decode_eq limits sound (clear sent kept)
          compactly whole
        simp only [Exchange.step, kept, stored, same, mirrors.machine_eq]
        split
        · exact ⟨rfl, mirrors.machine_eq, mirrors.envelopes_eq⟩
        · split
          · exact ⟨rfl, mirrors.machine_eq, mirrors.envelopes_eq⟩
          · simp only [Exchange.set, mirrors.machine_eq, mirrors.envelopes_eq, and_self]
  | observeFailure side failure =>
      simp only [Exchange.step, mirrors.machine_eq]
      split
      · exact ⟨rfl, mirrors.machine_eq, mirrors.envelopes_eq⟩
      · simp only [Exchange.set, mirrors.machine_eq, mirrors.envelopes_eq, and_self]

/-- A payload at the limit is decoded by the compact codec only. -/
theorem step_ne (unclear : ¬ reference.Clear read command) :
    (compact.step crates (.forPlan .compact plan) command).1 ≠
      (reference.step crates (.forPlan .reference plan) command).1 := by
  cases command with
  | perform => exact absurd trivial unclear
  | observeFailure => exact absurd trivial unclear
  | deliver side index =>
      simp only [Clear, not_forall, not_not] at unclear
      rcases unclear with ⟨sent, kept, atLimit⟩
      change reference.wire[index]? = some sent at kept
      rcases mirrors.exists_sent kept with ⟨text, stored, carries, compactly, whole⟩
      have refused := carries.toOption_decode limits sound whole
      have decoded := carries.toOption_decode limits sound compactly
      rcases atLimit with ⟨deep, readable⟩
      rcases Option.isSome_iff_exists.mp readable with ⟨payload, mapped⟩
      rw [if_neg (by rw [deep]; decide)] at refused
      rw [if_pos (by rw [deep]; decide), mapped, Option.map_some] at decoded
      simp only [Exchange.step, kept, stored, refused, decoded]
      split <;> simp

omit mirrors in
/-- The two runs are the same exactly when no command delivers a payload at the limit. -/
theorem run_eq_iff {script : List Command} (mirrors : Mirrors crates plan compact reference)
    (compactFits : Fits (compact.run crates (.forPlan .compact plan) script))
    (referenceFits : Fits (reference.run crates (.forPlan .reference plan) script)) :
    compact.run crates (.forPlan .compact plan) script =
        reference.run crates (.forPlan .reference plan) script ↔
      reference.StaysClear crates (.forPlan .reference plan) read script := by
  induction script generalizing compact reference with
  | nil => simp [run, StaysClear]
  | cons command script ih =>
      rcases fits_cons.mp compactFits with ⟨compactHead, compactTail⟩
      rcases fits_cons.mp referenceFits with ⟨referenceHead, referenceTail⟩
      by_cases clear : reference.Clear read command
      · rcases mirrors.step_eq limits sound clear compactHead referenceHead with
          ⟨sameEvent, after⟩
        have rest := ih after compactTail referenceTail
        simp only [run, StaysClear, sameEvent, after.machine_eq, List.cons.injEq, true_and, rest,
          clear]
      · have differs := mirrors.step_ne limits sound clear
        simp only [run, StaysClear, clear, false_and, iff_false]
        intro same
        exact differs (congrArg Observation.event (List.cons.inj same).1)

end Mirrors

/-- The fresh machines of a plan, before any command. -/
theorem mirrors_fresh {role : Side → String} {machine : Side → EndpointMachine}
    (created : ∀ side, EndpointMachine.fromPlan plan (role side) = .ok (machine side)) :
    Mirrors crates plan { machine, wire := [] } { machine, wire := [] } := by
  have lawful : ∀ encoding, Lawful crates plan encoding { machine, wire := [] } := fun _ =>
    ⟨fun side => EndpointMachine.runs_of_fromPlan (created side), by simp, by simp⟩
  exact ⟨lawful .compact, lawful .reference, rfl, rfl⟩

/-- The compact encoder never fails in a session of two machines of a prepared plan, and the run
over compact texts is, step by step, the run over reference texts, exactly when no payload is
delivered that is nested 126 deep: the reference document is then too deep to be read. -/
theorem compact_refines_reference_iff (crates : Crates) (read : FiniteFloat → Option FiniteFloat)
    (limits : crates.LimitsDepth read) (plan : ColloqPlan) (prepared : PreparedPlan)
    (accepted : plan.prepare crates = .ok prepared) (role : Side → String)
    (machine : Side → EndpointMachine)
    (created : ∀ side, EndpointMachine.fromPlan prepared (role side) = .ok (machine side))
    (script : List Command)
    (fits : ∀ encoding,
      Fits (run crates (.forPlan encoding prepared) { machine, wire := [] } script)) :
    (run crates (.forPlan .compact prepared) { machine, wire := [] } script =
        run crates (.forPlan .reference prepared) { machine, wire := [] } script ∧
      ∀ observation ∈ run crates (.forPlan .compact prepared) { machine, wire := [] } script,
        ∀ error, observation.event ≠ .encodeFailed error) ↔
      StaysClear crates (.forPlan .reference prepared) read { machine, wire := [] } script := by
  have sound := (PreparedPlan.Built.prepare accepted).sound
  have mirrors := @mirrors_fresh crates prepared role machine created
  have never := run_ne_encodeFailed sound mirrors.compactLawful (fits .compact)
  rw [and_iff_left never]
  exact mirrors.run_eq_iff limits sound (fits .compact) (fits .reference)

/-! ## A question that is nested 126 deep -/

section Inquiry

open EndpointMachine (fromPlan runs_of_fromPlan)

variable {payload : Value}

def inquiryMachine (side : Side) : EndpointMachine :=
  Conversation.inquiry.initialMachine .limited (inquiryRole side)

theorem prepare_inquiry :
    (Conversation.inquiry.compiledPlan .limited).prepare .limited = .ok inquiryPlan :=
  Checked.check_bind_eq_ok_iff.mpr
    ⟨(ColloqPlan.verify_eq_ok_iff _ _).mpr
      Conversation.compilable_inquiry.verified_compiledPlan, rfl⟩

theorem created_inquiryMachine (side : Side) :
    fromPlan inquiryPlan (inquiryRole side) = .ok (inquiryMachine side) :=
  Conversation.fromPlan_preparedPlan_eq_ok_iff.mpr ⟨hasRole_inquiryRole side, rfl⟩

def askEnvelope : WireEnvelope := inquirer.envelope (.select "client" "ask")

theorem carries_ask : inquiryPlan.Carries askEnvelope :=
  built_inquiryPlan.sound.carries_of_perform (runs_of_fromPlan created_inquirer) perform_ask

theorem carries_question (payload : Value) : inquiryPlan.Carries (questionEnvelope payload) :=
  built_inquiryPlan.sound.carries_of_perform
    ((runs_of_fromPlan created_inquirer).steps reached_question) (perform_question payload)

theorem exists_encode_small {envelope : WireEnvelope} (carries : inquiryPlan.Carries envelope)
    (small : envelope.state.length + envelope.frame.toJson.extent ≤ 1000)
    (encoding : WireEncoding) :
    ∃ text, (EnvelopeCodec.forPlan encoding inquiryPlan).encode .limited envelope = .ok text := by
  have concise : Crates.limited.Concise := Crates.reference_concise
  apply carries.exists_encode concise
  have extent := envelope.extent_toJson
  have named : inquiryPlan.conversation.length = 7 := rfl
  have digest : inquiryPlan.conversationIdentity.length = 71 := length_sha256Identity _ _
  have format : wireFormat.length = 5 := rfl
  rw [carries.version, carries.conversation_eq, carries.identity_eq, named, digest, format]
    at extent
  omega

theorem extent_question (payload : Value) :
    (questionEnvelope payload).state.length +
      (questionEnvelope payload).frame.toJson.extent = payload.json.extent + 65 := by
  have keys : "question".length = 8 ∧ "op".length = 2 ∧ "data".length = 4 ∧ "from".length = 4 ∧
      "client".length = 6 ∧ "to".length = 2 ∧ "server".length = 6 ∧ "message".length = 7 ∧
      "text".length = 4 ∧ "payload".length = 7 := ⟨rfl, rfl, rfl, rfl, rfl, rfl, rfl, rfl, rfl, rfl⟩
  have state : (questionEnvelope payload).state = "question" := rfl
  have frame : (questionEnvelope payload).frame =
      .data "client" "server" "text" (some payload) := rfl
  simp [state, frame, Frame.toJson, Serde.skipNone, Json.extent, Json.extentMembers, keys]
  omega

variable {encoding : WireEncoding}

/-- The client has asked. -/
def asked (text : List UInt8) : Exchange where
  machine := Function.update inquiryMachine .left (inquirer.moved "question")
  wire := [⟨askEnvelope, text⟩]

/-- The client has sent its question, too. -/
def questioned (text encoded : List UInt8) (payload : Value) : Exchange where
  machine := Function.update (asked text).machine .left ((inquirer.moved "question").moved "done")
  wire := [⟨askEnvelope, text⟩, ⟨questionEnvelope payload, encoded⟩]

theorem step_ask {text : List UInt8}
    (written : (EnvelopeCodec.forPlan encoding inquiryPlan).encode .limited askEnvelope =
      .ok text) :
    step .limited (.forPlan encoding inquiryPlan) { machine := inquiryMachine, wire := [] }
      (.perform .left (.select "ask")) = (.encoded askEnvelope, asked text) := by
  have performed : (inquiryMachine .left).perform (.select "ask") =
      some (.ok askEnvelope, inquirer.moved "question") := perform_ask
  simp only [step, performed, written]
  rfl

theorem step_question {text encoded : List UInt8}
    (written : (EnvelopeCodec.forPlan encoding inquiryPlan).encode .limited
      (questionEnvelope payload) = .ok encoded) :
    (asked text).step .limited (.forPlan encoding inquiryPlan) (.perform .left (.data payload)) =
      (.encoded (questionEnvelope payload), questioned text encoded payload) := by
  have performed : ((asked text).machine .left).perform (.data payload) =
      some (.ok (questionEnvelope payload), (inquirer.moved "question").moved "done") := by
    simp only [asked, Function.update_self]
    exact perform_question payload
  simp only [step, performed, written]
  rfl

/-- The client asks and sends its question; the server gets both. -/
def inquiryScript (payload : Value) : List Command :=
  [.perform .left (.select "ask"), .perform .left (.data payload), .deliver .right 0,
    .deliver .right 1]

theorem fits_inquiryScript (small : payload.json.extent ≤ 900) (encoding : WireEncoding) :
    Fits (run .limited (.forPlan encoding inquiryPlan) { machine := inquiryMachine, wire := [] }
      (inquiryScript payload)) := by
  rcases exists_encode_small carries_ask (by decide) encoding with ⟨text, writtenAsk⟩
  rcases exists_encode_small (carries_question payload)
    (by rw [extent_question]; omega) encoding with ⟨encoded, writtenQuestion⟩
  rw [inquiryScript, fits_cons, step_ask writtenAsk, fits_cons, step_question writtenQuestion,
    fits_cons, fits_cons]
  refine ⟨by simp, by simp, ?_, ?_, by simp [Fits, run]⟩
  · exact fun _ _ => step_deliver_ne_encodeFailed
  · exact fun _ _ => step_deliver_ne_encodeFailed

theorem staysClear_inquiryScript_iff (small : payload.json.extent ≤ 900) :
    StaysClear .limited (.forPlan .reference inquiryPlan) some
        { machine := inquiryMachine, wire := [] } (inquiryScript payload) ↔
      payload.json.depth ≠ 126 := by
  rcases exists_encode_small carries_ask (by decide) .reference with ⟨text, writtenAsk⟩
  rcases exists_encode_small (carries_question payload)
    (by rw [extent_question]; omega) .reference with ⟨encoded, writtenQuestion⟩
  have question : (questionEnvelope payload).frame.AtLimit some ↔ payload.json.depth = 126 :=
    and_iff_left (mapPayload_some _)
  have ask : ¬ askEnvelope.frame.AtLimit some := fun atLimit => by cases atLimit.1
  rw [inquiryScript, StaysClear, step_ask writtenAsk, StaysClear, step_question writtenQuestion,
    StaysClear, StaysClear, StaysClear]
  simp [Clear, step_deliver_wire, questioned, question, ask]

/-- `null` inside so many arrays. -/
def nested : ℕ → Json
  | 0 => .null
  | depth + 1 => .array [nested depth]

theorem depth_nested (depth : ℕ) : (nested depth).depth = depth := by
  induction depth with
  | zero => rfl
  | succ depth ih => simp [nested, Json.depth, Json.depthItems, ih]

theorem extent_nested (depth : ℕ) : (nested depth).extent = 2 * depth + 1 := by
  induction depth with
  | zero => rfl
  | succ depth ih =>
      simp only [nested, Json.extent, Json.extentItems, ih]
      omega

theorem canonical_nested (depth : ℕ) : (nested depth).canonical = true := by
  induction depth with
  | zero => rfl
  | succ depth ih => simp [nested, Json.canonical, Json.canonicalItems, ih]

/-- A question of this form is read from its compact text, and not from its reference text. -/
def deepQuestion : Value := ⟨nested 126, canonical_nested 126⟩

/-- The compact run delivers a question that the reference run refuses. -/
theorem deep_question_splits :
    ¬ ∀ (crates : Crates) (read : FiniteFloat → Option FiniteFloat), crates.LimitsDepth read →
      ∀ (plan : ColloqPlan) (prepared : PreparedPlan), plan.prepare crates = .ok prepared →
        ∀ (role : Side → String) (machine : Side → EndpointMachine),
          (∀ side, fromPlan prepared (role side) = .ok (machine side)) →
          ∀ script, (∀ encoding,
            Fits (run crates (.forPlan encoding prepared) { machine, wire := [] } script)) →
              run crates (.forPlan .compact prepared) { machine, wire := [] } script =
                  run crates (.forPlan .reference prepared) { machine, wire := [] } script ∧
                ∀ observation ∈
                    run crates (.forPlan .compact prepared) { machine, wire := [] } script,
                  ∀ error, observation.event ≠ .encodeFailed error := by
  intro refines
  have small : deepQuestion.json.extent ≤ 900 := by
    change (nested 126).extent ≤ 900
    rw [extent_nested]
    decide
  have same := (refines .limited some Crates.limitsDepth_limited _ inquiryPlan prepare_inquiry
    inquiryRole inquiryMachine created_inquiryMachine (inquiryScript deepQuestion)
    (fits_inquiryScript small)).1
  have mirrors := @mirrors_fresh .limited inquiryPlan inquiryRole inquiryMachine
    created_inquiryMachine
  have clear := (mirrors.run_eq_iff Crates.limitsDepth_limited built_inquiryPlan.sound
    (fits_inquiryScript small .compact) (fits_inquiryScript small .reference)).mp same
  exact (staysClear_inquiryScript_iff small).mp clear (depth_nested 126)

theorem compact_refines_reference_iff_inquiry :
    run .limited (.forPlan .compact inquiryPlan) { machine := inquiryMachine, wire := [] }
        (inquiryScript ⟨.string "ready?", rfl⟩) =
      run .limited (.forPlan .reference inquiryPlan) { machine := inquiryMachine, wire := [] }
        (inquiryScript ⟨.string "ready?", rfl⟩) := by
  have small : (Json.string "ready?").extent ≤ 900 := by decide
  exact ((compact_refines_reference_iff .limited some Crates.limitsDepth_limited _ inquiryPlan
    prepare_inquiry inquiryRole inquiryMachine created_inquiryMachine _
    (@fits_inquiryScript ⟨.string "ready?", rfl⟩ small)).mpr
      ((staysClear_inquiryScript_iff small).mpr (by decide))).1

end Inquiry

end Exchange

end Colloq
