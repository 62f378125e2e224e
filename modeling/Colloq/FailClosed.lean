import Colloq.JsonText
import Colloq.Transports

/-!
# Transports before a session is established

Any sequence of handshakes, sends and receives on one transport. A compact or an
Iroh transport does not touch its stream for a frame before a handshake has
returned `Ok`; a TCP or QUIC transport with the reference codec does.
-/

namespace Colloq

open Program (Path)
open Program.Stateful (path_bind start_bind start_bind_of_done start_ofExcept)
open Streaming (StreamEvent written received)

/-- A call on a transport. -/
inductive NetworkCall where
  | establishSession (plan : PreparedPlan) (localRole peerRole : String)
  | send (envelope : WireEnvelope)
  | receive

namespace NetworkCall

@[reducible]
def Value : NetworkCall → Type
  | .establishSession .. => SessionPreface
  | .send _ => Unit
  | .receive => WireEnvelope

def run (crates : Crates) : (call : NetworkCall) → Networking call.Value
  | .establishSession plan localRole peerRole =>
      NetworkTransport.establishSession crates plan localRole peerRole
  | .send envelope => NetworkTransport.send crates envelope
  | .receive => NetworkTransport.receive crates

/-- The calls that read or write semantic frames. -/
def IsFrame : NetworkCall → Prop
  | .establishSession .. => False
  | .send _ | .receive => True

end NetworkCall

/-- A call that has returned. -/
structure Returned where
  call : NetworkCall
  result : Except RuntimeError call.Value

/-- The call has established the session. -/
def Returned.Established : Returned → Prop
  | ⟨.establishSession .., result⟩ => ∃ peer, result = .ok peer
  | ⟨.send _, _⟩ | ⟨.receive, _⟩ => False

/-- The transports that any sequence of calls can leave, whatever the stream answers. -/
inductive History (crates : Crates) (fresh : NetworkTransport) :
    List Returned → NetworkTransport → Prop where
  | fresh : History crates fresh [] fresh
  | call {calls : List Returned} {before after : NetworkTransport} {call : NetworkCall}
      {events : List (StreamEvent UInt8 StreamError)} {result : Except RuntimeError call.Value}
      (history : History crates fresh calls before)
      (path : Path ((call.run crates).start before) events (.done (result, after))) :
      History crates fresh (calls ++ [⟨call, result⟩]) after

/-- A call that leaves the stream alone and can only return an error. -/
def Refuses {α : Type} (program : Networking α) (transport : NetworkTransport) : Prop :=
  ∀ events last, Path (program.start transport) events last →
    written events = [] ∧ received events = [] ∧
      ∀ result after, last = .done (result, after) → ∃ error, result = .error error

/-- No frame is written or read before a handshake on the same transport has returned `Ok`. -/
def FailClosed (crates : Crates) (fresh : NetworkTransport) : Prop :=
  ∀ calls transport, History crates fresh calls transport →
    (∀ returned ∈ calls, ¬returned.Established) →
      ∀ call : NetworkCall, call.IsFrame → Refuses (call.run crates) transport

/-- The transports that ask for a session before every frame. -/
def NetworkTransport.Gated (transport : NetworkTransport) : Prop :=
  transport.codec.encoding = .compact ∨ ∃ connection, transport.kind = .iroh connection

/-! ## What a call leaves behind -/

/-- How a program can end from a transport on, whatever the stream answers. -/
def Ends {α : Type} (transport : NetworkTransport) (program : Networking α)
    (post : Except RuntimeError α → NetworkTransport → Prop) : Prop :=
  Program.Stateful.Follows (fun (_ : Unit) _ _ => True) (fun _ => post) () transport program

/-- A program that does not change the transport. -/
def Quiet {α : Type} (transport : NetworkTransport) (program : Networking α) : Prop :=
  Ends transport program fun _ after => after = transport

section Rules

variable {α β : Type} {transport : NetworkTransport} {program : Networking α}
  {post : Except RuntimeError α → NetworkTransport → Prop}

theorem Ends.path (ends : Ends transport program post)
    {events : List (StreamEvent UInt8 StreamError)} {result : Except RuntimeError α}
    {after : NetworkTransport}
    (path : Path (program.start transport) events (.done (result, after))) :
    post result after := by
  rcases Program.Follows.path ends path with ⟨_, _, reached⟩
  exact reached

theorem Ends.done (program : Networking α) {result : Except RuntimeError α}
    {after : NetworkTransport} (done : program.start transport = .done (result, after))
    (holds : post result after) : Ends transport program post := by
  rw [Ends, Program.Stateful.Follows, done]
  exact holds

theorem Ends.mono {weaker : Except RuntimeError α → NetworkTransport → Prop}
    (ends : Ends transport program post) (implies : ∀ result after, post result after →
      weaker result after) : Ends transport program weaker := by
  unfold Ends at ends ⊢
  exact ends.mono fun _ => implies

theorem Quiet.bind {first : Networking β} {rest : β → Networking α}
    (quiet : Quiet transport first) (fail : ∀ error, post (.error error) transport)
    (succeed : ∀ value, Ends transport (rest value) post) :
    Ends transport (first >>= rest) post := by
  unfold Quiet Ends at quiet
  unfold Ends at succeed ⊢
  apply Program.Stateful.Follows.bind quiet
  · intro ghost value state same
    rw [same]
    exact succeed value
  · intro ghost error state same
    rw [same]
    exact fail error

theorem Quiet.bind_quiet {first : Networking β} {rest : β → Networking α}
    (quiet : Quiet transport first) (succeed : ∀ value, Quiet transport (rest value)) :
    Quiet transport (first >>= rest) :=
  quiet.bind (fun _ => rfl) succeed

theorem quiet_pure (value : α) : Quiet transport (pure value) := rfl

theorem quiet_throw (error : RuntimeError) : Quiet transport (throw error : Networking α) := rfl

theorem quiet_get : Quiet transport (get : Networking NetworkTransport) := rfl

theorem quiet_ofExcept (result : Except RuntimeError α) :
    Quiet transport (MonadExcept.ofExcept result : Networking α) :=
  Ends.done _ (start_ofExcept result) rfl

theorem quiet_ask (op : Streaming.StreamOp UInt8) :
    Quiet transport (Program.Stateful.ask op) :=
  ⟨fun _ => (), trivial, fun _ => rfl⟩

variable (kind : NetworkKind)

theorem quiet_writeAll (bytes : List UInt8) : Quiet transport (kind.writeAll bytes) :=
  (quiet_ask _).bind_quiet fun _ => quiet_ofExcept _

theorem quiet_readExact (length : ℕ) : Quiet transport (kind.readExact length) :=
  (quiet_ask _).bind_quiet fun _ => quiet_ofExcept _

theorem quiet_flush : Quiet transport kind.flush := by
  cases kind with
  | tcp => exact (quiet_ask _).bind_quiet fun _ => quiet_ofExcept _
  | quic | iroh => exact quiet_pure _

theorem quiet_writeFrame (tooLarge : ℕ → ℕ → RuntimeError) (encoded : List UInt8) :
    Quiet transport (kind.writeFrame tooLarge encoded) := by
  apply (quiet_ofExcept _).bind_quiet
  intro _
  apply (quiet_writeAll kind _).bind_quiet
  intro _
  apply (quiet_writeAll kind _).bind_quiet
  intro _
  exact quiet_flush kind

theorem quiet_readFrame (tooLarge : ℕ → ℕ → RuntimeError) (limit : ℕ)
    {onTooLarge : Networking Unit} (quiet : Quiet transport onTooLarge) :
    Quiet transport (kind.readFrame tooLarge limit onTooLarge) := by
  apply (quiet_readExact kind 4).bind_quiet
  intro length
  split_ifs
  · apply quiet.bind_quiet
    intro _
    apply (quiet_throw _).bind_quiet
    intro _
    exact (quiet_readExact kind _).bind_quiet fun _ => quiet_pure _
  · exact (quiet_readExact kind _).bind_quiet fun _ => quiet_pure _

theorem quiet_abortOversized : Quiet transport kind.abortOversized := by
  cases kind with
  | tcp | quic => exact quiet_pure _
  | iroh => exact quiet_ask _

theorem quiet_tryCatch {first : Networking α} {handle : RuntimeError → Networking α}
    (quiet : Quiet transport first) (handles : ∀ error, Quiet transport (handle error)) :
    Quiet transport (tryCatch first handle) := by
  unfold Quiet Ends at quiet handles ⊢
  apply Program.Stateful.Follows.tryCatch quiet
  · intro ghost value state same
    exact same
  · intro ghost error state same
    rw [same]
    exact handles error

theorem quiet_rejectPeer (error : RuntimeError) :
    Quiet transport (kind.rejectPeer error : Networking α) := by
  apply (quiet_ask _).bind_quiet
  intro _
  apply (quiet_tryCatch (quiet_flush kind) fun _ => quiet_pure _).bind_quiet
  intro _
  apply (quiet_ask _).bind_quiet
  intro _
  exact quiet_throw error

theorem quiet_statusExchange : Quiet transport kind.statusExchange := by
  apply (quiet_writeAll kind _).bind_quiet
  intro _
  apply (quiet_flush kind).bind_quiet
  intro _
  exact (quiet_readExact kind 1).bind_quiet fun _ => quiet_pure _

end Rules

/-- The only way to establish a session is to return the preface of the peer. -/
def Establishes (transport : NetworkTransport) (result : Except RuntimeError SessionPreface)
    (after : NetworkTransport) : Prop :=
  after = transport ∨
    (∃ peer, result = .ok peer) ∧ after = { transport with sessionEstablished := true }

section Handshake

variable {transport : NetworkTransport}

/-- The session is established only as the preface of the peer is returned. -/
theorem ends_acceptPeer (kind : NetworkKind) (peer : SessionPreface) :
    Ends transport (kind.acceptPeer peer) (Establishes transport) := by
  have exchange : Quiet transport (tryCatch kind.statusExchange fun error => do
      abort
      throw error) := by
    apply quiet_tryCatch (quiet_statusExchange kind)
    intro error
    exact (quiet_ask _).bind_quiet fun _ => quiet_throw error
  apply exchange.bind fun _ => .inl rfl
  intro status
  have accepts : Ends transport (do
      modify fun transport => { transport with sessionEstablished := true }
      return peer) (Establishes transport) :=
    .inr ⟨⟨peer, rfl⟩, rfl⟩
  split_ifs
  · apply (quiet_ask _).bind fun _ => .inl rfl
    intro _
    apply (quiet_throw _).bind fun _ => .inl rfl
    intro _
    exact accepts
  · exact accepts

theorem ends_exchangePrefaces (crates : Crates) (kind : NetworkKind) (own : SessionPreface)
    (verify : SessionPreface → Except RuntimeError Unit) :
    Ends transport (kind.exchangePrefaces crates own verify) (Establishes transport) := by
  apply (quiet_ofExcept _).bind fun _ => .inl rfl
  intro encoded
  apply (quiet_writeFrame kind _ _).bind fun _ => .inl rfl
  intro _
  apply (quiet_readFrame kind _ _ (quiet_abortOversized kind)).bind fun _ => .inl rfl
  intro peerEncoded
  cases NetworkKind.decodePeer crates verify peerEncoded with
  | error error => exact (quiet_rejectPeer kind error).mono fun _ _ same => .inl same
  | ok peer => exact ends_acceptPeer kind peer

/-- Every kind of transport establishes its session in this way. -/
theorem ends_establishSession (crates : Crates) (plan : PreparedPlan)
    (localRole peerRole : String) :
    Ends transport (NetworkTransport.establishSession crates plan localRole peerRole)
      (Establishes transport) := by
  apply quiet_get.bind fun _ => .inl rfl
  intro here
  cases here.kind with
  | tcp =>
      apply quiet_get.bind fun _ => .inl rfl
      intro _
      apply (quiet_ofExcept _).bind fun _ => .inl rfl
      intro _
      exact ends_exchangePrefaces crates _ _ _
  | quic =>
      apply quiet_get.bind fun _ => .inl rfl
      intro _
      apply (quiet_ofExcept _).bind fun _ => .inl rfl
      intro _
      exact ends_exchangePrefaces crates _ _ _
  | iroh connection =>
      apply quiet_get.bind fun _ => .inl rfl
      intro _
      apply (quiet_ofExcept _).bind fun _ => .inl rfl
      intro _
      apply (quiet_ofExcept _).bind fun _ => .inl rfl
      intro _
      exact ends_exchangePrefaces crates _ _ _

theorem quiet_send (crates : Crates) (envelope : WireEnvelope) :
    Quiet transport (NetworkTransport.send crates envelope) := by
  apply quiet_get.bind_quiet
  intro _
  apply (quiet_ofExcept _).bind_quiet
  intro _
  apply (quiet_ofExcept _).bind_quiet
  intro _
  exact quiet_writeFrame _ _ _

theorem quiet_receive (crates : Crates) : Quiet transport (NetworkTransport.receive crates) := by
  apply quiet_get.bind_quiet
  intro _
  apply (quiet_ofExcept _).bind_quiet
  intro _
  apply (quiet_readFrame _ _ _ (quiet_pure _)).bind_quiet
  intro _
  exact quiet_ofExcept _

end Handshake

/-! ## Runs of calls -/

/-- A transport keeps its kind and its codec, and is established by a handshake only. -/
theorem History.invariant {crates : Crates} {fresh transport : NetworkTransport}
    {calls : List Returned} (history : History crates fresh calls transport) :
    transport.kind = fresh.kind ∧ transport.codec = fresh.codec ∧
      (transport.sessionEstablished = true →
        fresh.sessionEstablished = true ∨ ∃ returned ∈ calls, returned.Established) := by
  induction history with
  | fresh => exact ⟨rfl, rfl, .inl⟩
  | @call calls before after call events result _ path ih =>
      rcases ih with ⟨kind, codec, established⟩
      have kept : after = before → after.kind = fresh.kind ∧ after.codec = fresh.codec ∧
          (after.sessionEstablished = true → fresh.sessionEstablished = true ∨
            ∃ returned ∈ calls ++ [⟨call, result⟩], returned.Established) := by
        intro same
        rw [same]
        refine ⟨kind, codec, ?_⟩
        intro now
        rcases established now with old | ⟨returned, member, earlier⟩
        · exact .inl old
        · exact .inr ⟨returned, List.mem_append_left _ member, earlier⟩
      cases call with
      | establishSession plan localRole peerRole =>
          rcases (ends_establishSession crates plan localRole peerRole).path path with
            same | ⟨returned, changed⟩
          · exact kept same
          · rw [changed]
            refine ⟨kind, codec, ?_⟩
            intro _
            exact .inr ⟨_, List.mem_append_right _ (List.mem_singleton_self _), returned⟩
      | send envelope => exact kept ((quiet_send crates envelope).path path)
      | receive => exact kept ((quiet_receive crates).path path)

theorem refuses_of_done {α : Type} {program : Networking α} {transport : NetworkTransport}
    {error : RuntimeError} (done : program.start transport = .done (.error error, transport)) :
    Refuses program transport := by
  intro events last path
  rw [done] at path
  cases path
  refine ⟨rfl, rfl, ?_⟩
  intro result after same
  cases same
  exact ⟨error, rfl⟩

/-- A gated transport without a session refuses every frame. -/
theorem NetworkTransport.Gated.refuses {crates : Crates} {transport : NetworkTransport}
    (gated : transport.Gated) (fresh : transport.sessionEstablished = false) {call : NetworkCall}
    (frame : call.IsFrame) : Refuses (call.run crates) transport := by
  have required : transport.requireSession = .error (.sessionRequired transport.kind.name) := by
    rcases transport with ⟨kind, codec, established, finished⟩
    simp only at fresh
    subst fresh
    rcases gated with compact | ⟨connection, isIroh⟩
    · cases kind <;>
        simp_all [NetworkTransport.requireSession, NetworkTransport.requireCompactSession,
          IrohTransport.requireSession, Checked.ensure]
    · simp only at isIroh
      subst isIroh
      simp [NetworkTransport.requireSession, IrohTransport.requireSession, Checked.ensure]
  cases call with
  | establishSession => exact frame.elim
  | send envelope =>
      apply @refuses_of_done _ _ _ (.sessionRequired transport.kind.name)
      simp [NetworkCall.run, NetworkTransport.send, start_bind, required]
  | receive =>
      apply @refuses_of_done _ _ _ (.sessionRequired transport.kind.name)
      simp [NetworkCall.run, NetworkTransport.receive, start_bind, required]

/-! ## Which transports are fail-closed -/

section Open

variable {crates : Crates} {transport : NetworkTransport}

theorem NetworkTransport.requireSession_of_not_gated (free : ¬transport.Gated) :
    transport.requireSession = .ok () := by
  rcases transport with ⟨kind, codec, established, finished⟩
  cases kind <;>
    simp_all [NetworkTransport.Gated, NetworkTransport.requireSession,
      NetworkTransport.requireCompactSession, Checked.ensure]

/-- A transport that does not ask for a session reads the length of a frame at once. -/
theorem NetworkTransport.path_receive (required : transport.requireSession = .ok ())
    (length : Vector UInt8 4) :
    ∃ last, Path ((NetworkTransport.receive crates).start transport)
      [⟨.readExact 4, .ok length⟩] last := by
  rw [NetworkTransport.receive, start_bind_of_done rfl, required,
    start_bind_of_done (start_ofExcept _), start_bind]
  exact ⟨_, .call (.refl _)⟩

theorem NetworkTransport.path_writeAll (kind : NetworkKind) (bytes : List UInt8) :
    Path ((kind.writeAll bytes).start transport) [⟨.writeAll bytes, .ok ()⟩]
      (.done (.ok (), transport)) :=
  .call (.refl _)

theorem NetworkTransport.path_flush (kind : NetworkKind) :
    ∃ events, Path (kind.flush.start transport) events (.done (.ok (), transport)) ∧
      written events = [] := by
  cases kind with
  | tcp => exact ⟨[⟨.flush, .ok ()⟩], .call (.refl _), rfl⟩
  | quic | iroh => exact ⟨[], .refl _, rfl⟩

/-- On a stream that takes everything, such a transport sends a whole frame. -/
theorem NetworkTransport.path_send (required : transport.requireSession = .ok ())
    {envelope : WireEnvelope} {encoded : List UInt8}
    (encodes : transport.codec.encode crates envelope = .ok encoded)
    (short : encoded.length < UInt32.size) :
    ∃ events, Path ((NetworkTransport.send crates envelope).start transport) events
      (.done (.ok (), transport)) ∧ written events = Streaming.frame encoded := by
  have fits : Checked.ensure (encoded.length < UInt32.size)
      (RuntimeError.envelopeTooLarge encoded.length (UInt32.size - 1)) = .ok () :=
    Checked.ensure_eq_ok_iff.mpr short
  rw [NetworkTransport.send, start_bind_of_done rfl, required,
    start_bind_of_done (start_ofExcept _), encodes, start_bind_of_done (start_ofExcept _),
    NetworkKind.writeFrame, fits, start_bind_of_done (start_ofExcept _)]
  rcases @NetworkTransport.path_flush transport transport.kind with ⟨flushed, path, nothing⟩
  refine ⟨_, path_bind (NetworkTransport.path_writeAll _ _)
    (path_bind (NetworkTransport.path_writeAll _ _) path), ?_⟩
  simp [nothing, Streaming.frame]

end Open

/-- The transports that are fail-closed are those that ask for a session before every frame. -/
theorem failClosed_iff_gated (crates : Crates) {fresh : NetworkTransport}
    (unestablished : fresh.sessionEstablished = false) : FailClosed crates fresh ↔ fresh.Gated := by
  constructor
  · intro closed
    by_contra free
    rcases @NetworkTransport.path_receive crates fresh
      (NetworkTransport.requireSession_of_not_gated free) (Vector.replicate 4 0) with ⟨last, path⟩
    have refuses := closed [] fresh .fresh (by simp) .receive trivial
    have reads := (refuses _ _ path).2.1
    simp at reads
  · intro gated calls transport history none call frame
    rcases history.invariant with ⟨kind, codec, established⟩
    have gatedNow : transport.Gated := by
      rw [NetworkTransport.Gated, kind, codec]
      exact gated
    apply gatedNow.refuses _ frame
    rw [Bool.eq_false_iff]
    intro now
    rcases established now with old | ⟨returned, member, earlier⟩
    · simp [unestablished] at old
    · exact none returned member earlier

namespace FailClosed

/-- A TCP transport of the reference codec, as `TcpTransport::new` builds it. -/
def freshTcp : NetworkTransport := { kind := .tcp, codec := .reference }

/-- The first envelope of a conversation. -/
def firstEnvelope : WireEnvelope where
  colloqWire := wireFormat
  conversation := "c"
  conversationIdentity := "i"
  state := "s"
  sequence := 0
  frame := .select "client" "more"

theorem length_encode_firstEnvelope :
    (JsonText.encode firstEnvelope.toJson).length ≤ maxEnvelopeBytes := by
  have short : (JsonText.write firstEnvelope.toJson).length ≤ 1000 := by decide +kernel
  have bytes := JsonText.length_encode_le firstEnvelope.toJson
  rw [maxEnvelopeBytes]
  omega

/-- Without any handshake, such a transport sends a whole frame and returns `Ok`. -/
theorem freshTcp_sends : ∃ events,
    Path ((NetworkTransport.send Crates.reference firstEnvelope).start freshTcp) events
      (.done (.ok (), freshTcp)) ∧
      written events = Streaming.frame (JsonText.encode firstEnvelope.toJson) := by
  have bound := length_encode_firstEnvelope
  have encodes : freshTcp.codec.encode Crates.reference firstEnvelope =
      .ok (JsonText.encode firstEnvelope.toJson) := by
    simp [freshTcp, EnvelopeCodec.encode, encodeEnvelope, encodeDocument, Checked.ensure,
      Crates.toVec_reference, bound]
  exact NetworkTransport.path_send rfl encodes (lt_size_of_le_maxEnvelopeBytes bound)

/-- The guard of `send` and `receive` is about the compact codec only: a transport with the
reference codec and no session is not closed. -/
theorem not_freshTcp : ¬FailClosed Crates.reference freshTcp := by
  intro closed
  rcases freshTcp_sends with ⟨events, path, sent⟩
  have refuses := closed [] freshTcp .fresh (by simp) (.send firstEnvelope) trivial
  have nothing := (refuses _ _ path).1
  rw [sent] at nothing
  simp [Streaming.frame, Streaming.toBeBytes] at nothing

end FailClosed

theorem failClosed_iff_gated_compact : FailClosed Crates.reference
    { kind := .tcp, codec := .compact ⟨"conversation", "identity", "plan", ⟨"", []⟩⟩ } :=
  (failClosed_iff_gated Crates.reference rfl).mpr (.inl rfl)

end Colloq
