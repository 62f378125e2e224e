import Colloq.FailClosed

/-!
# The course of a handshake

What a party hands to its stream and reads from it while it establishes a session:
its preface behind the length, the preface of the peer, and the two verdicts. At any
point it has either refused its peer so far, or verified the preface that it read.
-/

namespace Colloq

open Program (Path)
open Program.Stateful (Follows path_bind path_bind_cases start_bind_of_done start_ofExcept)
open Streaming

def RuntimeError.IsSessionMismatch : RuntimeError → Prop
  | .sessionMismatch .. => True
  | _ => False

/-! ## What a preface states -/

/-- The preface is one of the session that the plan describes. -/
structure SessionPreface.States (preface : SessionPreface) (plan : PreparedPlan) (role : String)
    (encoding : WireEncoding) : Prop where
  conversation_eq : preface.conversation = plan.conversation
  conversationIdentity_eq : preface.conversationIdentity = plan.conversationIdentity
  planIdentity_eq : preface.planIdentity = plan.planIdentity
  role_eq : preface.role = role
  wire_eq : preface.wire = encoding

theorem requireSessionField_eq_ok_iff {field expected actual : String} :
    requireSessionField field expected actual = .ok () ↔ expected = actual :=
  Checked.ensure_eq_ok_iff

theorem WireEncoding.asStr_injective : Function.Injective WireEncoding.asStr := by
  intro one two same
  cases one <;> cases two <;> first | rfl | simp [asStr] at same

section Preface

variable {plan : PreparedPlan} {localRole peerRole : String} {codec : EnvelopeCodec}
  {preface : SessionPreface} {encoding : WireEncoding}

theorem SessionPreface.states_of_verifyPeer
    (verified : preface.verifyPeer plan peerRole encoding = .ok ()) :
    preface.States plan peerRole encoding := by
  simp only [verifyPeer, Checked.check_bind_eq_ok_iff, requireSessionField_eq_ok_iff] at verified
  rcases verified with ⟨_, _, conversation, identity, planIdentity, role, wire⟩
  exact ⟨conversation.symm, identity.symm, planIdentity.symm, role.symm,
    WireEncoding.asStr_injective wire.symm⟩

theorem states_of_localSessionPreface
    (own : localSessionPreface codec plan localRole peerRole = .ok preface) :
    preface.States plan localRole codec.encoding := by
  simp only [localSessionPreface, SessionPreface.forPlan, Checked.check_bind_eq_ok_iff] at own
  rcases own with ⟨_, _, _, _, same⟩
  rw [← Except.ok.inj same]
  exact ⟨rfl, rfl, rfl, rfl, rfl⟩

end Preface

/-! ## What a transport verifies -/

/-- What a transport sends in its handshake, and how it verifies what it receives. -/
structure Preparation where
  own : SessionPreface
  verify : SessionPreface → Except RuntimeError Unit

namespace NetworkTransport

/-- The checks before anything is written. -/
def prepare (transport : NetworkTransport) (plan : PreparedPlan) (localRole peerRole : String) :
    Except RuntimeError Preparation :=
  match transport.kind with
  | .tcp | .quic => do
    let own ← localSessionPreface transport.codec plan localRole peerRole
    return {
      own
      verify := fun peer => peer.verifyPeer plan peerRole transport.codec.encoding }
  | .iroh connection => do
    let binding ← channelBinding connection plan
    let own ← localSessionPreface transport.codec plan localRole peerRole
    return {
      own := { own with
        endpointIdentity := some connection.endpoint, channelBinding := some binding }
      verify := fun peer => verifyIrohSessionPreface peer plan peerRole transport.codec.encoding
        connection.remoteIdentity binding }

variable {crates : Crates} {transport : NetworkTransport} {plan : PreparedPlan}
  {localRole peerRole : String}

/-- The three versions differ in what they prepare, not in what they exchange. -/
theorem start_establishSession : (establishSession crates plan localRole peerRole).start transport =
    match transport.prepare plan localRole peerRole with
    | .error error => .done (.error error, transport)
    | .ok prepared =>
      (transport.kind.exchangePrefaces crates prepared.own prepared.verify).start transport := by
  rcases transport with ⟨kind, codec, established, finished⟩
  rw [establishSession, start_bind_of_done rfl]
  cases kind with
  | tcp | quic =>
      simp only [TcpTransport.establishSession, QuicTransport.establishSession, prepare]
      rw [start_bind_of_done rfl]
      cases localSessionPreface codec plan localRole peerRole <;> rfl
  | iroh connection =>
      simp only [IrohTransport.establishSession, prepare]
      rw [start_bind_of_done rfl]
      cases channelBinding connection plan with
      | error error => rfl
      | ok binding => cases localSessionPreface codec plan localRole peerRole <;> rfl

variable {prepared : Preparation}

theorem states_of_prepare (made : transport.prepare plan localRole peerRole = .ok prepared) :
    prepared.own.States plan localRole transport.codec.encoding := by
  rcases transport with ⟨kind, codec, established, finished⟩
  cases kind with
  | tcp | quic =>
      simp only [prepare, Checked.bind_eq_ok_iff] at made
      rcases made with ⟨own, written, same⟩
      rw [← Except.ok.inj same]
      exact states_of_localSessionPreface written
  | iroh connection =>
      simp only [prepare, Checked.bind_eq_ok_iff] at made
      rcases made with ⟨binding, _, own, written, same⟩
      rw [← Except.ok.inj same]
      have states := states_of_localSessionPreface written
      exact ⟨states.conversation_eq, states.conversationIdentity_eq, states.planIdentity_eq,
        states.role_eq, states.wire_eq⟩

theorem states_of_verify (made : transport.prepare plan localRole peerRole = .ok prepared)
    {peer : SessionPreface} (verified : prepared.verify peer = .ok ()) :
    peer.States plan peerRole transport.codec.encoding := by
  rcases transport with ⟨kind, codec, established, finished⟩
  cases kind with
  | tcp | quic =>
      simp only [prepare, Checked.bind_eq_ok_iff] at made
      rcases made with ⟨own, _, same⟩
      rw [← Except.ok.inj same] at verified
      exact SessionPreface.states_of_verifyPeer verified
  | iroh connection =>
      simp only [prepare, Checked.bind_eq_ok_iff] at made
      rcases made with ⟨binding, _, own, _, same⟩
      rw [← Except.ok.inj same] at verified
      simp only [verifyIrohSessionPreface, Checked.check_bind_eq_ok_iff] at verified
      exact SessionPreface.states_of_verifyPeer verified.1

end NetworkTransport

/-! ## What is written and read -/

/-- The transcripts that a program may have at its calls, and when it ends. -/
def Talks {α : Type} (during : Transcript UInt8 → Prop)
    (post : Transcript UInt8 → Except RuntimeError α → NetworkTransport → Prop)
    (transcript : Transcript UInt8) (transport : NetworkTransport) (program : Networking α) :
    Prop :=
  Follows (Transcribed during) post transcript transport program

section Rules

variable {α β : Type} {transport : NetworkTransport} {transcript : Transcript UInt8}
  {during : Transcript UInt8 → Prop}
  {post : Transcript UInt8 → Except RuntimeError α → NetworkTransport → Prop}
  {program : Networking α} {events : List (StreamEvent UInt8 StreamError)}

theorem Talks.at_call (talks : Talks during post {} transport program) {op : StreamOp UInt8}
    {next : op.Answer UInt8 StreamError →
      Program (StreamOp UInt8) (StreamOp.Answer UInt8 StreamError)
        (Except RuntimeError α × NetworkTransport)}
    (path : Path (program.start transport) events (.call op next)) :
    during ⟨written events, received events⟩ := by
  rcases follows_transcribed_path talks path with ⟨_, ⟨here, _⟩, _⟩
  simpa using here

theorem Talks.at_done (talks : Talks during post {} transport program)
    {result : Except RuntimeError α} {after : NetworkTransport}
    (path : Path (program.start transport) events (.done (result, after))) :
    post ⟨written events, received events⟩ result after := by
  have ends := follows_transcribed_path talks path
  simpa using ends

/-- How a program goes on after its first part. -/
def Continues (during : Transcript UInt8 → Prop)
    (post : Transcript UInt8 → Except RuntimeError α → NetworkTransport → Prop)
    (rest : β → Networking α) :
    Transcript UInt8 → Except RuntimeError β → NetworkTransport → Prop
  | transcript, .ok value, transport => Talks during post transcript transport (rest value)
  | transcript, .error error, transport => post transcript (.error error) transport

theorem Talks.bind {first : Networking β} {rest : β → Networking α}
    (talks : Talks during (Continues during post rest) transcript transport first) :
    Talks during post transcript transport (first >>= rest) :=
  Follows.bind talks (fun _ _ _ holds => holds) fun _ _ _ holds => holds

/-- How a program goes on where its handler takes over. -/
def Recovers (during : Transcript UInt8 → Prop)
    (post : Transcript UInt8 → Except RuntimeError α → NetworkTransport → Prop)
    (handle : RuntimeError → Networking α) :
    Transcript UInt8 → Except RuntimeError α → NetworkTransport → Prop
  | transcript, .ok value, transport => post transcript (.ok value) transport
  | transcript, .error error, transport => Talks during post transcript transport (handle error)

theorem Talks.tryCatch {first : Networking α} {handle : RuntimeError → Networking α}
    (talks : Talks during (Recovers during post handle) transcript transport first) :
    Talks during post transcript transport (tryCatch first handle) :=
  Follows.tryCatch talks (fun _ _ _ holds => holds) fun _ _ _ holds => holds

theorem Talks.done (program : Networking α) {result : Except RuntimeError α}
    {after : NetworkTransport} (done : program.start transport = .done (result, after))
    (holds : post transcript result after) : Talks during post transcript transport program := by
  rw [Talks, Follows, done]
  exact holds

theorem talks_close (here : during transcript) {post : Transcript UInt8 → Except RuntimeError Unit →
    NetworkTransport → Prop} (closed : post transcript (.ok ()) transport) :
    Talks during post transcript transport abort := by
  refine ⟨_, ⟨here, rfl⟩, ?_⟩
  intro answer
  rw [Transcript.answer_close]
  exact closed

variable (kind : NetworkKind)

theorem talks_writeAll {bytes : List UInt8} {post : Transcript UInt8 → Except RuntimeError Unit →
    NetworkTransport → Prop} (here : during transcript)
    (answered : ∀ answer : Except StreamError Unit,
      post ⟨transcript.written ++ bytes, transcript.received⟩ (answer.mapError kind.error)
        transport) :
    Talks during post transcript transport (kind.writeAll bytes) := by
  refine ⟨_, ⟨here, rfl⟩, ?_⟩
  intro answer
  rw [Transcript.answer_writeAll]
  exact Talks.done _ (start_ofExcept _) (answered answer)

theorem talks_flush {post : Transcript UInt8 → Except RuntimeError Unit → NetworkTransport → Prop}
    (here : during transcript) (answered : ∀ answer : Except StreamError Unit,
      post transcript (answer.mapError kind.error) transport) :
    Talks during post transcript transport kind.flush := by
  cases kind with
  | tcp =>
      refine ⟨_, ⟨here, rfl⟩, ?_⟩
      intro answer
      rw [Transcript.answer_flush]
      exact Talks.done _ (start_ofExcept _) (answered answer)
  | quic | iroh => exact answered (.ok ())

/-- A read ends with all the items that were asked for, or with the error of the stream. -/
theorem talks_readExact {length : ℕ}
    {post : Transcript UInt8 → Except RuntimeError (Vector UInt8 length) → NetworkTransport → Prop}
    (here : during transcript)
    (arrived : ∀ items : Vector UInt8 length,
      post ⟨transcript.written, transcript.received ++ items.toList⟩ (.ok items) transport)
    (failed : ∀ error, post transcript (.error (kind.error error)) transport) :
    Talks during post transcript transport (kind.readExact length) := by
  refine ⟨_, ⟨here, rfl⟩, ?_⟩
  intro answer
  cases answer with
  | ok items =>
      rw [Transcript.answer_readExact]
      have done : (kind.check (.ok items : Except StreamError _)).start transport =
          .done (.ok items, transport) := start_ofExcept _
      exact @Talks.done _ _ _ during _ _ _ _ done (arrived items)
  | error error =>
      rw [Transcript.answer_readExact_error]
      have done : (kind.check (.error error : Except StreamError (Vector UInt8 length))).start
          transport = .done (.error (kind.error error), transport) := start_ofExcept _
      exact @Talks.done _ _ _ during _ _ _ _ done (failed error)

end Rules

section Parts

variable {α : Type} {transport : NetworkTransport} (kind : NetworkKind)

/-- A frame is handed over whole, unless the stream fails. -/
theorem talks_writeFrame (tooLarge : ℕ → ℕ → RuntimeError) {encoded : List UInt8}
    (short : encoded.length < UInt32.size) :
    Talks (fun transcript => transcript.written <+: frame encoded)
      (fun transcript result after => after = transport ∧ transcript.received = [] ∧
        transcript.written <+: frame encoded ∧
        (result = .ok () → transcript.written = frame encoded))
      {} transport (kind.writeFrame tooLarge encoded) := by
  have fits : Checked.ensure (encoded.length < UInt32.size)
      (tooLarge encoded.length (UInt32.size - 1)) = .ok () := Checked.ensure_eq_ok_iff.mpr short
  have begun : toBeBytes (.ofNat encoded.length) <+: frame encoded := List.prefix_append _ _
  rw [NetworkKind.writeFrame, fits]
  apply Talks.bind
  apply Talks.done _ (start_ofExcept _)
  apply Talks.bind
  apply talks_writeAll kind (List.nil_prefix)
  intro length
  cases length with
  | error error => exact ⟨rfl, rfl, begun, by simp⟩
  | ok length =>
      apply Talks.bind
      apply talks_writeAll kind begun
      intro content
      cases content with
      | error error => exact ⟨rfl, rfl, List.prefix_rfl, by simp⟩
      | ok content =>
          apply talks_flush kind List.prefix_rfl
          intro flushed
          exact ⟨rfl, rfl, List.prefix_rfl, fun _ => rfl⟩

theorem talks_abortOversized {transcript : Transcript UInt8} {during : Transcript UInt8 → Prop}
    {post : Transcript UInt8 → Except RuntimeError Unit → NetworkTransport → Prop}
    (here : during transcript) (closed : post transcript (.ok ()) transport) :
    Talks during post transcript transport kind.abortOversized := by
  cases kind with
  | tcp | quic => exact closed
  | iroh connection => exact talks_close here closed

/-- What is read as a frame was one. -/
theorem talks_readFrame (tooLarge : ℕ → ℕ → RuntimeError) (limit : ℕ) :
    Talks (fun transcript => transcript.written = [])
      (fun transcript result after => after = transport ∧ transcript.written = [] ∧
        ∀ encoded, result = .ok encoded →
          encoded.length ≤ limit ∧ transcript.received = frame encoded)
      {} transport (kind.readFrame tooLarge limit kind.abortOversized) := by
  apply Talks.bind
  apply talks_readExact kind
  · rfl
  · intro length
    simp only [Continues]
    split_ifs with oversized
    · apply Talks.bind
      apply talks_abortOversized kind
      · rfl
      · apply Talks.bind
        apply Talks.done _ (Program.Stateful.start_throw _)
        exact ⟨rfl, rfl, by simp⟩
    · apply Talks.bind
      apply talks_readExact kind
      · rfl
      · intro items
        apply Talks.done _ (Program.Stateful.start_pure _)
        refine ⟨rfl, rfl, ?_⟩
        intro encoded same
        rw [← Except.ok.inj same, Vector.length_toList, frame, Vector.length_toList,
          toBeBytes_fromBeBytes]
        exact ⟨Nat.le_of_not_lt oversized, rfl⟩
      · intro error
        exact ⟨rfl, rfl, by simp⟩
  · intro error
    exact ⟨rfl, rfl, by simp⟩

/-- A peer that is rejected is told so. -/
theorem talks_rejectPeer (error : RuntimeError) :
    Talks (fun transcript => transcript.written <+: [sessionRejected])
      (fun transcript result _ => transcript.written <+: [sessionRejected] ∧
        result = .error error)
      {} transport (kind.rejectPeer error : Networking α) := by
  apply Follows.ask_bind ⟨List.nil_prefix, rfl⟩
  intro told
  rw [Transcript.answer_writeAll]
  apply Talks.bind
  apply Talks.tryCatch
  apply talks_flush kind List.prefix_rfl
  have ends : Talks (fun transcript => transcript.written <+: [sessionRejected])
      (fun transcript result _ => transcript.written <+: [sessionRejected] ∧
        result = .error error) ⟨[sessionRejected], []⟩ transport (do
      abort
      throw error : Networking α) := by
    apply Talks.bind
    apply talks_close List.prefix_rfl
    apply Talks.done _ (Program.Stateful.start_throw _)
    exact ⟨List.prefix_rfl, rfl⟩
  intro flushed
  cases flushed with
  | ok flushed => exact ends
  | error error => exact Talks.done _ (Program.Stateful.start_pure _) ends

theorem NetworkKind.not_isSessionMismatch_error (error : StreamError) :
    ¬(kind.error error).IsSessionMismatch := by
  cases kind <;> exact id

/-- The own verdict, and the one that the peer gives. -/
theorem talks_statusExchange :
    Talks (fun transcript => transcript.written <+: [sessionAccepted])
      (fun transcript result after => after = transport ∧
        transcript.written <+: [sessionAccepted] ∧
        (∀ error, result = .error error → ¬error.IsSessionMismatch) ∧
        ∀ status, result = .ok status → transcript.received = [status])
      {} transport kind.statusExchange := by
  have fails : ∀ (received : List UInt8) (error : StreamError),
      transport = transport ∧ [sessionAccepted] <+: [sessionAccepted] ∧
        (∀ other, (.error (kind.error error) : Except RuntimeError UInt8) = .error other →
          ¬other.IsSessionMismatch) ∧
        ∀ status : UInt8, Except.error (kind.error error) = .ok status →
          received = [status] := by
    intro received error
    refine ⟨rfl, List.prefix_rfl, ?_, by simp⟩
    intro other same
    rw [← Except.error.inj same]
    exact kind.not_isSessionMismatch_error error
  apply Talks.bind
  apply talks_writeAll kind List.nil_prefix
  intro told
  cases told with
  | error error => exact fails _ error
  | ok told =>
      apply Talks.bind
      apply talks_flush kind List.prefix_rfl
      intro flushed
      cases flushed with
      | error error => exact fails _ error
      | ok flushed =>
          apply Talks.bind
          apply talks_readExact kind List.prefix_rfl
          · intro items
            apply Talks.done _ (Program.Stateful.start_pure _)
            refine ⟨rfl, List.prefix_rfl, by simp, ?_⟩
            intro status same
            rw [← Except.ok.inj same]
            rcases items with ⟨⟨items⟩, filled⟩
            rcases List.length_eq_one_iff.mp filled with ⟨item, rfl⟩
            rfl
          · intro error
            exact fails _ error

/-- A party that accepts its peer returns `Ok` if the peer accepts it too. -/
theorem talks_acceptPeer (peer : SessionPreface) :
    Talks (fun transcript => transcript.written <+: [sessionAccepted])
      (fun transcript result after => transcript.written <+: [sessionAccepted] ∧
        (∀ error, result = .error error → ¬error.IsSessionMismatch) ∧
        ∀ value, result = .ok value → transcript.received = [sessionAccepted] ∧
          after = { transport with sessionEstablished := true })
      {} transport (kind.acceptPeer peer) := by
  apply Talks.bind
  apply Talks.tryCatch
  apply (talks_statusExchange kind).mono
  intro transcript result after holds
  rcases holds with ⟨same, begun, failed, accepted⟩
  subst same
  cases result with
  | error error =>
      apply Talks.bind
      apply talks_close begun
      apply Talks.done _ (Program.Stateful.start_throw _)
      refine ⟨begun, ?_, by simp⟩
      intro other same
      exact failed other (congrArg _ (Except.error.inj same))
  | ok status =>
      simp only [Recovers, Continues]
      split_ifs with rejected
      · apply Talks.bind
        apply talks_close begun
        apply Talks.bind
        apply Talks.done _ (Program.Stateful.start_throw _)
        refine ⟨begun, ?_, by simp⟩
        intro error same
        rw [← Except.error.inj same]
        exact id
      · refine ⟨begun, by simp, ?_⟩
        intro value same
        rw [not_not.mp rejected] at accepted
        exact ⟨accepted _ rfl, rfl⟩

end Parts

/-! ## The course of a handshake -/

/-- How far a handshake has come: the peer has been accepted, or this party has not returned
`Ok` and the peer was told no more than a rejection. -/
inductive Progress (crates : Crates) (transport : NetworkTransport) (prepared : Preparation)
    (encoded : List UInt8) (events : List (StreamEvent UInt8 StreamError))
    (last : Program (StreamOp UInt8) (StreamOp.Answer UInt8 StreamError)
      (Except RuntimeError SessionPreface × NetworkTransport)) : Prop where
  | refusing (told : written events <+: frame encoded ++ [sessionRejected])
      (refused : ∀ peer after, last ≠ .done (.ok peer, after))
  | accepting {peer : SessionPreface} {peerEncoded : List UInt8}
      {before after : List (StreamEvent UInt8 StreamError)} (same : events = before ++ after)
      (told : written before = frame encoded) (heard : received before = frame peerEncoded)
      (short : peerEncoded.length ≤ maxSessionPrefaceBytes)
      (verified : NetworkKind.decodePeer crates prepared.verify peerEncoded = .ok peer)
      (path : Path ((transport.kind.exchangePrefaces crates prepared.own prepared.verify).start
        transport) before ((transport.kind.acceptPeer peer).start transport))
      (onward : Path ((transport.kind.acceptPeer peer).start transport) after last)

variable {crates : Crates} {prepared : Preparation} {encoded : List UInt8}

theorem length_lt_of_encodeSessionPreface
    (encodes : encodeSessionPreface crates prepared.own = .ok encoded) :
    encoded.length < UInt32.size ∧ encoded = crates.toVec prepared.own.toJson := by
  simp only [encodeSessionPreface, Checked.check_bind_eq_ok_iff, Checked.ensure_eq_ok_iff]
    at encodes
  rcases encodes with ⟨short, same⟩
  rw [← Except.ok.inj same]
  exact ⟨lt_size_of_le_maxSessionPrefaceBytes short, rfl⟩

/-- From what has been written and read follows how far the exchange of the prefaces has come. -/
theorem progress_of_path {transport : NetworkTransport}
    {events : List (StreamEvent UInt8 StreamError)}
    {last : Program (StreamOp UInt8) (StreamOp.Answer UInt8 StreamError)
      (Except RuntimeError SessionPreface × NetworkTransport)}
    (encodes : encodeSessionPreface crates prepared.own = .ok encoded)
    (path : Path ((transport.kind.exchangePrefaces crates prepared.own prepared.verify).start
      transport) events last) : Progress crates transport prepared encoded events last := by
  have short := (length_lt_of_encodeSessionPreface encodes).1
  have writes := @talks_writeFrame transport transport.kind .sessionPrefaceTooLarge _ short
  have reads := @talks_readFrame transport transport.kind .sessionPrefaceTooLarge
    maxSessionPrefaceBytes
  have unended : frame encoded <+: frame encoded ++ [sessionRejected] := List.prefix_append _ _
  rw [NetworkKind.exchangePrefaces, encodes, start_bind_of_done (start_ofExcept _)] at path
  rcases path_bind_cases path with ⟨op, next, left, inside, ended⟩ | ⟨error, next, inside, ended⟩ |
    ⟨_, next, before, more, same, wrote, path⟩
  · apply Progress.refusing ((writes.at_call inside).trans unended)
    simp [ended]
  · apply Progress.refusing ((writes.at_done inside).2.2.1.trans unended)
    simp [ended]
  rcases writes.at_done wrote with ⟨kept, silent, _, whole⟩
  subst kept
  have told : written before = frame encoded := whole rfl
  rcases path_bind_cases path with ⟨op, next, left, inside, ended⟩ | ⟨error, next, inside, ended⟩ |
    ⟨peerEncoded, next, hearing, after, sameMore, read, path⟩
  · have nothing : written more = [] := reads.at_call inside
    refine .refusing ?_ (by simp [ended])
    rw [same, written_append, told, nothing, List.append_nil]
    exact unended
  · have nothing : written more = [] := (reads.at_done inside).2.1
    refine .refusing ?_ (by simp [ended])
    rw [same, written_append, told, nothing, List.append_nil]
    exact unended
  rcases reads.at_done read with ⟨kept, nothing, framed⟩
  subst kept
  rcases framed peerEncoded rfl with ⟨limited, heard⟩
  simp only at nothing heard silent
  cases verified : NetworkKind.decodePeer crates prepared.verify peerEncoded with
  | error error =>
      have rejects := @talks_rejectPeer SessionPreface next next.kind error
      rw [verified] at path
      have begun : written after <+: [sessionRejected] ∧
          ∀ peer final, last ≠ .done (.ok peer, final) := by
        cases last with
        | call op left => exact ⟨rejects.at_call path, by simp⟩
        | done ended =>
            rcases ended with ⟨result, final⟩
            rcases rejects.at_done path with ⟨begun, failed⟩
            exact ⟨begun, by simp [failed]⟩
      refine .refusing ?_ begun.2
      rw [same, sameMore, written_append, written_append, told, nothing, List.nil_append]
      exact List.prefix_append_right_inj _ |>.mpr begun.1
  | ok peer =>
      rw [verified] at path
      have reached : Path ((next.kind.exchangePrefaces crates prepared.own prepared.verify).start
          next) (before ++ hearing) ((next.kind.acceptPeer peer).start next) := by
        rw [NetworkKind.exchangePrefaces, encodes, start_bind_of_done (start_ofExcept _),
          ← List.append_nil hearing]
        apply path_bind wrote
        apply path_bind read
        rw [verified]
        exact .refl _
      refine @Progress.accepting _ _ _ _ _ _ peer peerEncoded (before ++ hearing) after ?_ ?_ ?_
        limited verified reached path
      · rw [same, sameMore, List.append_assoc]
      · rw [written_append, told, nothing, List.append_nil]
      · rw [received_append, silent, heard, List.nil_append]

end Colloq
