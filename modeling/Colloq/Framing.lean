import Colloq.Handshake
import Colloq.RoundTrip

/-!
# Frames on a stream

The envelopes that a transport sends are frames on its stream, on QUIC with the
close marker behind them. However the stream is split into chunks, and wherever it is
cut, a receiver reads the first of these frames in order, and then an error.
-/

namespace Colloq

open Program (Path)
open Program.Stateful (interpret_bind_error interpret_bind_ok path_bind_cases start_bind_of_done
  start_ofExcept start_pure start_throw)
open Streaming

/-- No JSON text is empty. -/
structure Crates.NeverEmpty (crates : Crates) : Prop where
  toVec_ne_nil : ∀ json, crates.toVec json ≠ []
  fromSlice_nil : ∃ error, crates.fromSlice [] = .error error

namespace NetworkTransport

/-! ## Sending -/

def sendAll (crates : Crates) : List WireEnvelope → Networking Unit
  | [] => pure ()
  | envelope :: envelopes => do
    send crates envelope
    sendAll crates envelopes

/-- What follows the frames on the stream: on QUIC the close marker. -/
def trailer (transport : NetworkTransport) : List UInt8 :=
  match transport.kind with
  | .quic => closeMarker
  | .tcp | .iroh _ => []

end NetworkTransport

section Sent

variable {crates : Crates} {transport after : NetworkTransport} {payload : List UInt8}
  {events : List (StreamEvent UInt8 StreamError)}

/-- An encoded envelope is a JSON text that is not too large, in either encoding. -/
theorem EnvelopeCodec.exists_document {codec : EnvelopeCodec} {envelope : WireEnvelope}
    (encodes : codec.encode crates envelope = .ok payload) :
    (∃ document, payload = crates.toVec document) ∧ payload.length ≤ maxEnvelopeBytes := by
  cases codec with
  | reference =>
      rcases encodeDocument_eq_ok_iff.mp encodes with ⟨short, same⟩
      rw [same]
      exact ⟨⟨_, rfl⟩, short⟩
  | compact codec =>
      simp only [EnvelopeCodec.encode, CompactWireCodec.encode, Checked.check_bind_eq_ok_iff]
        at encodes
      rcases encodes with ⟨_, _, _, encodes⟩
      cases found : codec.wire.transitions.find? fun transition =>
          transitionMatches transition envelope with
      | none => simp [found] at encodes
      | some transition =>
          rw [found] at encodes
          have written : ∃ compact, encodeCompactEnvelope crates compact = .ok payload := by
            cases framed : envelope.frame with
            | fault => simp [framed, bind, Except.bind] at encodes
            | data | select | cancel =>
                simp only [framed, bind, Except.bind] at encodes
                exact ⟨_, encodes⟩
          rcases written with ⟨compact, written⟩
          rcases encodeDocument_eq_ok_iff.mp written with ⟨short, same⟩
          rw [same]
          exact ⟨⟨_, rfl⟩, short⟩

theorem documents_of_encoded (never : crates.NeverEmpty) {codec : EnvelopeCodec}
    {envelopes : List WireEnvelope} {payloads : List (List UInt8)}
    (encoded : List.Forall₂ (fun envelope payload => codec.encode crates envelope = .ok payload)
      envelopes payloads) :
    ∀ payload ∈ payloads, payload ≠ [] ∧ payload.length ≤ maxEnvelopeBytes := by
  induction encoded with
  | nil => simp
  | cons encodes _ ih =>
      intro payload member
      rcases List.mem_cons.mp member with same | later
      · subst same
        rcases EnvelopeCodec.exists_document encodes with ⟨⟨document, same⟩, short⟩
        refine ⟨?_, short⟩
        rw [same]
        exact never.toVec_ne_nil document
      · exact ih payload later

/-- A call of `send` that returns `Ok` has written one frame. -/
theorem written_send {envelope : WireEnvelope}
    (path : Path ((NetworkTransport.send crates envelope).start transport) events
      (.done (.ok (), after))) :
    after = transport ∧ ∃ payload, transport.codec.encode crates envelope = .ok payload ∧
      written events = frame payload := by
  rw [NetworkTransport.send, start_bind_of_done rfl] at path
  cases session : transport.requireSession with
  | error error =>
      rw [session] at path
      cases path
  | ok session =>
      rw [session, start_bind_of_done (start_ofExcept _)] at path
      cases encodes : transport.codec.encode crates envelope with
      | error error =>
          rw [encodes] at path
          cases path
      | ok payload =>
          have limited := (EnvelopeCodec.exists_document encodes).2
          have short := lt_size_of_le_maxEnvelopeBytes limited
          rw [encodes, start_bind_of_done (start_ofExcept _)] at path
          rcases (talks_writeFrame transport.kind .envelopeTooLarge short).at_done path with
            ⟨kept, _, _, whole⟩
          exact ⟨kept, payload, rfl, whole rfl⟩

/-- What is written are the frames of the payloads, one after another. -/
theorem written_sendAll {envelopes : List WireEnvelope}
    (path : Path ((NetworkTransport.sendAll crates envelopes).start transport) events
      (.done (.ok (), after))) :
    after = transport ∧ ∃ payloads,
      List.Forall₂ (fun envelope payload => transport.codec.encode crates envelope = .ok payload)
        envelopes payloads ∧ written events = payloads.flatMap frame := by
  induction envelopes generalizing events with
  | nil =>
      cases path
      exact ⟨rfl, [], .nil, rfl⟩
  | cons envelope envelopes ih =>
      rw [NetworkTransport.sendAll] at path
      rcases path_bind_cases path with ⟨_, _, _, _, ended⟩ | ⟨_, _, _, ended⟩ |
        ⟨_, next, before, more, same, sent, sending⟩
      · simp at ended
      · simp at ended
      · rcases written_send sent with ⟨kept, payload, encodes, framed⟩
        subst kept
        rcases ih sending with ⟨kept, payloads, encoded, rest⟩
        refine ⟨kept, payload :: payloads, .cons encodes encoded, ?_⟩
        rw [same, written_append, framed, rest, List.flatMap_cons]

/-- Only a marker of zero is accepted. -/
theorem talks_readQuicCloseMarker {during : Transcript UInt8 → Prop}
    {post : Transcript UInt8 → Except RuntimeError Unit → NetworkTransport → Prop}
    {transcript : Transcript UInt8} (here : during transcript)
    (accepted : ∀ marker : Vector UInt8 4, fromBeBytes marker = 0 →
      post ⟨transcript.written, transcript.received ++ marker.toList⟩ (.ok ()) transport)
    (failed : ∀ received error, post ⟨transcript.written, received⟩ (.error error) transport) :
    Talks during post transcript transport readQuicCloseMarker := by
  apply Talks.bind
  apply talks_readExact .quic here
  · intro marker
    by_cases zero : fromBeBytes marker = 0
    · apply Talks.done _ (start_ofExcept _)
      rw [Checked.ensure_eq_ok_iff.mpr zero]
      exact accepted marker zero
    · apply Talks.done _ (start_ofExcept _)
      rw [Checked.ensure, if_neg zero]
      exact failed _ _
  · intro error
    exact failed _ _

theorem toList_of_fromBeBytes_eq_zero {marker : Vector UInt8 4} (zero : fromBeBytes marker = 0) :
    marker.toList = closeMarker := by
  rw [← toBeBytes_fromBeBytes, zero]
  rfl

/-- The close handshake writes the marker and reads the one of the peer, in either role. -/
theorem talks_finish_markers {role : String} (fresh : transport.finished = false) :
    Talks (fun _ => True)
      (fun transcript result _ => result = .ok () →
        transcript.written = closeMarker ∧ transcript.received = closeMarker)
      {} transport (QuicTransport.finish role) := by
  apply Talks.bind
  apply Talks.done _ Program.Stateful.start_get
  simp only [Continues, fresh]
  rw [if_neg Bool.false_ne_true]
  split_ifs with client server
  · apply Talks.bind
    apply talks_writeAll .quic trivial
    intro told
    cases told with
    | error error => simp [Continues, Except.mapError]
    | ok told =>
        apply Talks.bind
        apply talks_readQuicCloseMarker trivial
        · intro marker zero
          apply Talks.bind
          apply talks_close trivial
          apply Talks.done _ (Program.Stateful.start_set _)
          exact fun _ => ⟨rfl, toList_of_fromBeBytes_eq_zero zero⟩
        · intro received error
          simp [Continues]
  · apply Talks.bind
    apply talks_readQuicCloseMarker trivial
    · intro marker zero
      apply Talks.bind
      apply talks_writeAll .quic trivial
      intro told
      cases told with
      | error error => simp [Continues, Except.mapError]
      | ok told =>
          apply Talks.done _ (Program.Stateful.start_set _)
          exact fun _ => ⟨rfl, toList_of_fromBeBytes_eq_zero zero⟩
    · intro received error
      simp [Continues]
  · apply Talks.bind
    apply Talks.done _ (start_throw _)
    simp [Continues]

/-- The close handshake writes the marker in either role. -/
theorem talks_finish {role : String} (fresh : transport.finished = false) :
    Talks (fun _ => True)
      (fun transcript result _ => result = .ok () → transcript.written = closeMarker)
      {} transport (QuicTransport.finish role) := by
  apply (talks_finish_markers fresh).mono
  intro transcript result after markers finished
  exact (markers finished).1

end Sent

/-! ## Receiving -/

section Received

variable {crates : Crates} {transport : NetworkTransport} {ended : StreamError}
  {chunks : List (List UInt8)} {payload rest : List UInt8}

theorem interpret_readExact (kind : NetworkKind) (length : ℕ) :
    ((kind.readExact length).start transport).interpret (answerChunks ended) chunks =
      (((readExact length ended chunks).1.mapError kind.error, transport),
        (readExact length ended chunks).2) := by
  rw [NetworkKind.readExact]
  apply (interpret_bind_ok _ rfl).trans
  rw [NetworkKind.check, start_ofExcept]
  rfl

/-- A receiver in a session reads the frame at the head of its stream. -/
theorem interpret_receive_frame (session : transport.requireSession = .ok ())
    (limited : payload.length ≤ maxEnvelopeBytes)
    (stream : chunks.flatten = frame payload ++ rest) :
    ∃ left, ((NetworkTransport.receive crates).start transport).interpret (answerChunks ended)
        chunks = ((transport.codec.decode crates payload, transport), left) ∧
      left.flatten = rest := by
  have short := lt_size_of_le_maxEnvelopeBytes limited
  have declared := fromBeBytes_toBeBytes short
  rw [frame, List.append_assoc] at stream
  rcases @readExact_ok _ _ 4 ended _ _ _ stream rfl with ⟨between, header, stream⟩
  rcases @readExact_ok _ _ _ ended _ _ _ stream declared.symm with ⟨left, content, stream⟩
  refine ⟨left, ?_, stream⟩
  have read : ((transport.kind.readFrame .envelopeTooLarge maxEnvelopeBytes (pure ())).start
      transport).interpret (answerChunks ended) chunks = ((.ok payload, transport), left) := by
    have first := @interpret_readExact transport ended chunks transport.kind 4
    rw [header] at first
    apply (interpret_bind_ok _ first).trans
    rw [if_neg (by rw [declared]; exact Nat.not_lt.mpr limited)]
    have second := @interpret_readExact transport ended between transport.kind
      (fromBeBytes ⟨(toBeBytes (.ofNat payload.length)).toArray, rfl⟩)
    rw [content] at second
    exact interpret_bind_ok _ second
  rw [NetworkTransport.receive, start_bind_of_done rfl, session,
    start_bind_of_done (start_ofExcept _)]
  apply (interpret_bind_ok _ read).trans
  rw [start_ofExcept]
  rfl

/-- A frame that was cut is not read. -/
theorem interpret_receive_cut (session : transport.requireSession = .ok ())
    (limited : payload.length ≤ maxEnvelopeBytes) (starts : chunks.flatten <+: frame payload)
    (cut : chunks.flatten.length < (frame payload).length) :
    ∃ error after, ((NetworkTransport.receive crates).start transport).interpret
      (answerChunks ended) chunks = ((.error error, transport), after) := by
  have short := lt_size_of_le_maxEnvelopeBytes limited
  have declared := fromBeBytes_toBeBytes short
  have fails : ∃ error after,
      ((transport.kind.readFrame .envelopeTooLarge maxEnvelopeBytes (pure ())).start
        transport).interpret (answerChunks ended) chunks = ((.error error, transport), after) := by
    have first := @interpret_readExact transport ended chunks transport.kind 4
    by_cases header : chunks.flatten.length < 4
    · rcases @readExact_error _ _ _ ended _ header with ⟨between, missing, _⟩
      rw [missing] at first
      exact ⟨_, _, interpret_bind_error _ first⟩
    · have whole : toBeBytes (.ofNat payload.length) <+: chunks.flatten := by
        apply List.prefix_of_prefix_length_le (List.prefix_append _ payload) starts
        rw [length_toBeBytes]
        omega
      rcases whole with ⟨content, stream⟩
      have missing : content.length < payload.length := by
        rw [← stream, frame, List.length_append, List.length_append] at cut
        omega
      rcases @readExact_ok _ _ 4 ended _ _ _ stream.symm rfl with ⟨between, header, stream⟩
      rw [header] at first
      have second := @interpret_readExact transport ended between transport.kind
        (fromBeBytes ⟨(toBeBytes (.ofNat payload.length)).toArray, rfl⟩)
      rw [← stream, ← declared] at missing
      rcases @readExact_error _ _ _ ended _ missing with ⟨left, failed, _⟩
      rw [failed] at second
      refine ⟨transport.kind.error ended, left, (interpret_bind_ok _ first).trans ?_⟩
      rw [if_neg (by rw [declared]; exact Nat.not_lt.mpr limited)]
      exact interpret_bind_error _ second
  rcases fails with ⟨error, after, fails⟩
  refine ⟨error, after, ?_⟩
  rw [NetworkTransport.receive, start_bind_of_done rfl, session,
    start_bind_of_done (start_ofExcept _)]
  exact interpret_bind_error _ fails

/-- Nothing is decoded from the empty text. -/
theorem decode_nil (never : crates.NeverEmpty) (codec : EnvelopeCodec) :
    ∃ error, codec.decode crates [] = .error error := by
  rcases never.fromSlice_nil with ⟨error, nothing⟩
  cases codec <;>
    exact ⟨.codec error, by
      simp [EnvelopeCodec.decode, decodeEnvelope, CompactWireCodec.decode, decodeDocument, nothing,
        Checked.ensure, bind, Except.bind, Except.mapError]⟩

theorem decodeDocument_ne_envelopeTooLarge {α : Type} {read : Json → Except String α}
    (limited : payload.length ≤ maxEnvelopeBytes) (actual limit : ℕ) :
    decodeDocument crates read payload ≠ .error (.envelopeTooLarge actual limit) := by
  rw [decodeDocument, Checked.ensure_eq_ok_iff.mpr limited]
  cases parsed : crates.fromSlice payload with
  | error error => simp [bind, Except.bind, Except.mapError]
  | ok document =>
      cases parsed : read document <;> simp [parsed, bind, Except.bind, Except.mapError]

/-- A frame that was sent is not too large for the receiver. -/
theorem decode_ne_envelopeTooLarge (limited : payload.length ≤ maxEnvelopeBytes)
    (codec : EnvelopeCodec) (actual limit : ℕ) :
    codec.decode crates payload ≠ .error (.envelopeTooLarge actual limit) := by
  cases codec with
  | reference => exact decodeDocument_ne_envelopeTooLarge limited actual limit
  | compact codec =>
      have document := @decodeDocument_ne_envelopeTooLarge crates payload _
        CompactEnvelope.fromJson limited actual limit
      rw [EnvelopeCodec.decode, CompactWireCodec.decode]
      cases parsed : decodeDocument crates CompactEnvelope.fromJson payload with
      | error error =>
          rw [parsed] at document
          simpa [bind, Except.bind] using document
      | ok compact =>
          cases found : codec.lookup compact.transition with
          | none => simp [found, bind, Except.bind]
          | some transition =>
              cases operation : transition.operation <;>
                cases present : compact.payload <;>
                  simp [found, operation, present, rebuildFrame, rejectControlPayload,
                    Checked.ensure, bind, Except.bind, pure, Except.pure]

/-- Calls of `receive` on one transport, with what they return, and what they leave. -/
def receiveEach (crates : Crates) (ended : StreamError) :
    ℕ → NetworkTransport × List (List UInt8) →
      List (Except RuntimeError WireEnvelope) × NetworkTransport × List (List UInt8)
  | 0, receiver => ([], receiver)
  | count + 1, (transport, chunks) =>
    let ((result, next), left) :=
      ((NetworkTransport.receive crates).start transport).interpret (answerChunks ended) chunks
    let (results, receiver) := receiveEach crates ended count (next, left)
    (result :: results, receiver)

theorem receiveEach_succ {count : ℕ} {result : Except RuntimeError WireEnvelope}
    {left : List (List UInt8)}
    (received : ((NetworkTransport.receive crates).start transport).interpret (answerChunks ended)
      chunks = ((result, transport), left)) :
    receiveEach crates ended (count + 1) (transport, chunks) =
      (result :: (receiveEach crates ended count (transport, left)).1,
        (receiveEach crates ended count (transport, left)).2) := by
  rw [receiveEach, received]

/-- Whole frames are read in order. -/
theorem receiveEach_frames (session : transport.requireSession = .ok ())
    {payloads : List (List UInt8)}
    (limited : ∀ payload ∈ payloads, payload.length ≤ maxEnvelopeBytes)
    (stream : chunks.flatten = payloads.flatMap frame ++ rest) :
    ∃ left, receiveEach crates ended payloads.length (transport, chunks) =
        (payloads.map (transport.codec.decode crates), transport, left) ∧ left.flatten = rest := by
  induction payloads generalizing chunks with
  | nil => exact ⟨chunks, rfl, stream⟩
  | cons payload payloads ih =>
      rw [List.flatMap_cons, List.append_assoc] at stream
      rcases @interpret_receive_frame crates _ ended _ _ _ session
        (limited payload List.mem_cons_self) stream with ⟨between, received, stream⟩
      rcases ih (fun other member => limited other (List.mem_cons_of_mem _ member)) stream with
        ⟨left, results, stream⟩
      refine ⟨left, ?_, stream⟩
      rw [List.length_cons, receiveEach_succ received, results]
      rfl

/-- A frame that is missing, or was cut, or is the close marker is no envelope. -/
theorem exists_error_receive (never : crates.NeverEmpty)
    (session : transport.requireSession = .ok ()) {sender : NetworkTransport}
    (starts : chunks.flatten <+: sender.trailer) :
    ∃ error left, ((NetworkTransport.receive crates).start transport).interpret
      (answerChunks ended) chunks = ((.error error, transport), left) := by
  have marker : sender.trailer <+: frame [] := by
    rw [NetworkTransport.trailer]
    cases sender.kind with
    | quic => exact List.prefix_rfl
    | tcp | iroh => exact List.nil_prefix
  have starts := starts.trans marker
  by_cases whole : chunks.flatten.length < (frame []).length
  · exact interpret_receive_cut session (Nat.zero_le _) starts whole
  · have same : chunks.flatten = frame [] ++ [] := by
      rw [List.append_nil]
      exact starts.eq_of_length_le (Nat.le_of_not_lt whole)
    rcases @interpret_receive_frame crates _ ended _ _ _ session (Nat.zero_le _) same with
      ⟨left, received, _⟩
    rcases decode_nil never transport.codec with ⟨error, nothing⟩
    rw [nothing] at received
    exact ⟨error, left, received⟩

/-- Of a stream that was cut the whole frames are read, and then an error is returned. -/
theorem receiveEach_cut (never : crates.NeverEmpty) (session : transport.requireSession = .ok ())
    {sender : NetworkTransport} {payloads : List (List UInt8)}
    (limited : ∀ payload ∈ payloads, payload.length ≤ maxEnvelopeBytes)
    (starts : chunks.flatten <+: payloads.flatMap frame ++ sender.trailer) :
    ∃ whole error, whole ≤ payloads.length ∧
      (receiveEach crates ended (whole + 1) (transport, chunks)).1 =
        (payloads.take whole).map (transport.codec.decode crates) ++ [.error error] := by
  induction payloads generalizing chunks with
  | nil =>
      rcases @exists_error_receive _ _ ended _ never session _ starts with ⟨error, left, received⟩
      refine ⟨0, error, Nat.le_refl 0, ?_⟩
      rw [receiveEach_succ received]
      rfl
  | cons payload payloads ih =>
      rw [List.flatMap_cons, List.append_assoc] at starts
      have short := limited payload List.mem_cons_self
      by_cases whole : chunks.flatten.length < (frame payload).length
      · have inside : chunks.flatten <+: frame payload :=
          List.prefix_of_prefix_length_le starts (List.prefix_append _ _) whole.le
        rcases @interpret_receive_cut crates _ ended _ _ session short inside whole with
          ⟨error, left, received⟩
        refine ⟨0, error, Nat.zero_le _, ?_⟩
        rw [receiveEach_succ received]
        rfl
      · rcases List.prefix_of_prefix_length_le (List.prefix_append _ _) starts
          (Nat.le_of_not_lt whole) with ⟨more, stream⟩
        rcases @interpret_receive_frame crates _ ended _ _ _ session short stream.symm with
          ⟨left, received, rest⟩
        have further : left.flatten <+: payloads.flatMap frame ++ sender.trailer := by
          rw [← stream, List.prefix_append_right_inj] at starts
          rw [rest]
          exact starts
        rcases ih (fun other member => limited other (List.mem_cons_of_mem _ member)) further with
          ⟨whole, error, bound, results⟩
        refine ⟨whole + 1, error, Nat.succ_le_succ bound, ?_⟩
        rw [receiveEach_succ received]
        simp [results]

theorem interpret_readQuicCloseMarker {length : ℕ} (short : length < UInt32.size)
    (stream : chunks.flatten = toBeBytes (.ofNat length) ++ rest) :
    ∃ left, (readQuicCloseMarker.start transport).interpret (answerChunks ended) chunks =
      ((Checked.ensure (length = 0) (.quic "expected Colloq QUIC close marker"), transport),
        left) := by
  rcases @readExact_ok _ _ 4 ended _ _ _ stream rfl with ⟨left, header, _⟩
  have read := @interpret_readExact transport ended chunks .quic 4
  rw [header] at read
  refine ⟨left, (interpret_bind_ok _ read).trans ?_⟩
  rw [start_ofExcept, fromBeBytes_toBeBytes short]
  rfl

/-- The close marker is found behind the last frame, and nowhere else. -/
theorem readQuicCloseMarker_iff (session : transport.requireSession = .ok ())
    {payloads : List (List UInt8)}
    (limited : ∀ payload ∈ payloads, payload ≠ [] ∧ payload.length ≤ maxEnvelopeBytes)
    (stream : chunks.flatten = payloads.flatMap frame ++ closeMarker) {count : ℕ}
    (bound : count ≤ payloads.length) :
    (∃ after, (readQuicCloseMarker.start
        (receiveEach crates ended count (transport, chunks)).2.1).interpret (answerChunks ended)
          (receiveEach crates ended count (transport, chunks)).2.2 = ((.ok (), transport), after)) ↔
      count = payloads.length := by
  have split : chunks.flatten = (payloads.take count).flatMap frame ++
      ((payloads.drop count).flatMap frame ++ closeMarker) := by
    rw [stream, ← List.append_assoc, ← List.flatMap_append, List.take_append_drop]
  have taken : (payloads.take count).length = count := List.length_take_of_le bound
  rcases @receiveEach_frames crates _ ended _ _ session _
    (fun payload member => (limited payload (List.mem_of_mem_take member)).2) split with
    ⟨left, results, rest⟩
  rw [taken] at results
  simp only [results]
  cases left_over : payloads.drop count with
  | nil =>
      have all : count = payloads.length :=
        Nat.le_antisymm bound (List.drop_eq_nil_iff.mp left_over)
      rw [left_over] at rest
      rcases @interpret_readQuicCloseMarker transport ended left [] 0 (by decide) rest with
        ⟨after, found⟩
      exact ⟨fun _ => all, fun _ => ⟨after, found⟩⟩
  | cons payload others =>
      have more : payload ∈ payloads := by
        apply List.mem_of_mem_drop
        rw [left_over]
        exact List.mem_cons_self
      have fewer : count ≠ payloads.length := by
        intro same
        rw [same, List.drop_length] at left_over
        cases left_over
      rcases limited payload more with ⟨nonempty, short⟩
      have declared := lt_size_of_le_maxEnvelopeBytes short
      rw [left_over, List.flatMap_cons, frame, List.append_assoc, List.append_assoc] at rest
      rcases @interpret_readQuicCloseMarker transport ended left _ _ declared rest with
        ⟨after, found⟩
      rw [found, Checked.ensure, if_neg (List.length_eq_zero_iff.not.mpr nonempty)]
      simp [fewer]

end Received

/-! ## A session on a stream -/

/-- What a transport has sent is received frame by frame, up to where the stream was cut; behind
the frames stands what the close handshake of QUIC writes, which is not taken for a frame. -/
theorem framing_is_lossless (crates : Crates) (never : crates.NeverEmpty)
    (sender receiver : NetworkTransport) (session : receiver.sessionEstablished = true)
    (envelopes : List WireEnvelope) (events : List (StreamEvent UInt8 StreamError))
    (after : NetworkTransport)
    (sent : Path ((NetworkTransport.sendAll crates envelopes).start sender) events
      (.done (.ok (), after))) (stream : List UInt8)
    (whole : stream = written events ++ sender.trailer) (ended : StreamError) :
    ∃ payloads : List (List UInt8),
      List.Forall₂ (fun envelope payload => sender.codec.encode crates envelope = .ok payload)
        envelopes payloads ∧
      (∀ payload ∈ payloads, ∀ actual limit,
        receiver.codec.decode crates payload ≠ .error (.envelopeTooLarge actual limit)) ∧
      (∀ chunks : List (List UInt8), chunks.flatten = stream →
        (receiveEach crates ended payloads.length (receiver, chunks)).1 =
          payloads.map (receiver.codec.decode crates)) ∧
      (∀ chunks : List (List UInt8), chunks.flatten <+: stream →
        ∃ received error, received ≤ payloads.length ∧
          (receiveEach crates ended (received + 1) (receiver, chunks)).1 =
            (payloads.take received).map (receiver.codec.decode crates) ++ [.error error]) ∧
      (sender.kind = .quic →
        (∀ role closing closed, sender.finished = false →
          Path ((QuicTransport.finish role).start after) closing (.done (.ok (), closed)) →
            written closing = sender.trailer) ∧
        ∀ chunks : List (List UInt8), chunks.flatten = stream → ∀ count ≤ payloads.length,
          (∃ left, (readQuicCloseMarker.start
              (receiveEach crates ended count (receiver, chunks)).2.1).interpret
                (answerChunks ended) (receiveEach crates ended count (receiver, chunks)).2.2 =
                  ((.ok (), receiver), left)) ↔ count = payloads.length) := by
  rcases written_sendAll sent with ⟨kept, payloads, encoded, framed⟩
  subst kept
  rw [framed] at whole
  have ready : receiver.requireSession = .ok () := by
    rcases receiver with ⟨kind, codec, established, finished⟩
    simp only at session
    subst session
    cases kind <;>
      simp [NetworkTransport.requireSession, NetworkTransport.requireCompactSession,
        IrohTransport.requireSession, Checked.ensure]
  have documents := documents_of_encoded never encoded
  have limited : ∀ payload ∈ payloads, payload.length ≤ maxEnvelopeBytes :=
    fun payload member => (documents payload member).2
  refine ⟨payloads, encoded, ?_, ?_, ?_, ?_⟩
  · intro payload member
    exact decode_ne_envelopeTooLarge (limited payload member) receiver.codec
  · intro chunks arrived
    rcases receiveEach_frames ready limited (arrived.trans whole) with ⟨left, results, _⟩
    rw [results]
  · intro chunks starts
    rw [whole] at starts
    exact receiveEach_cut never ready limited starts
  · intro quic
    have marker : after.trailer = closeMarker := by rw [NetworkTransport.trailer, quic]
    rw [marker] at whole ⊢
    refine ⟨?_, ?_⟩
    · intro role closing closed fresh path
      exact (talks_finish fresh).at_done path rfl
    · intro chunks arrived count bound
      exact readQuicCloseMarker_iff ready documents (arrived.trans whole) bound

section First

open FailClosed (firstEnvelope length_encode_firstEnvelope)

theorem Crates.reference_neverEmpty : Crates.reference.NeverEmpty := by
  have nothing : ∃ error, Crates.reference.fromSlice [] = .error error := ⟨_, rfl⟩
  refine ⟨?_, nothing⟩
  intro json empty
  rcases nothing with ⟨error, nothing⟩
  have read := Crates.reference_lossless json
  rw [empty, nothing] at read
  cases read

/-- A QUIC transport in a session. -/
def quicInSession : NetworkTransport where
  kind := .quic
  codec := .reference
  sessionEstablished := true

theorem quicInSession_sends : ∃ events,
    Path ((NetworkTransport.sendAll .reference [firstEnvelope]).start quicInSession) events
      (.done (.ok (), quicInSession)) := by
  have bound := length_encode_firstEnvelope
  have encodes : quicInSession.codec.encode Crates.reference firstEnvelope =
      .ok (JsonText.encode firstEnvelope.toJson) := by
    apply encodeDocument_eq_ok_iff.mpr
    rw [Crates.toVec_reference]
    exact ⟨bound, rfl⟩
  have short := lt_size_of_le_maxEnvelopeBytes bound
  rcases NetworkTransport.path_send rfl encodes short with ⟨events, path, _⟩
  exact ⟨_, Program.Stateful.path_bind path (.refl _)⟩

theorem framing_is_lossless_quic : ∃ events,
    Path ((NetworkTransport.sendAll .reference [firstEnvelope]).start quicInSession) events
      (.done (.ok (), quicInSession)) ∧ ∃ payloads : List (List UInt8),
      List.Forall₂ (fun envelope payload =>
        quicInSession.codec.encode .reference envelope = .ok payload) [firstEnvelope] payloads ∧
      (∀ payload ∈ payloads, ∀ actual limit, quicInSession.codec.decode .reference payload ≠
        .error (.envelopeTooLarge actual limit)) ∧
      (∀ chunks : List (List UInt8), chunks.flatten = written events ++ quicInSession.trailer →
        (receiveEach .reference ⟨.other, "finished early"⟩ payloads.length
          (quicInSession, chunks)).1 = payloads.map (quicInSession.codec.decode .reference)) ∧
      (∀ chunks : List (List UInt8), chunks.flatten <+: written events ++ quicInSession.trailer →
        ∃ received error, received ≤ payloads.length ∧
          (receiveEach .reference ⟨.other, "finished early"⟩ (received + 1)
            (quicInSession, chunks)).1 =
              (payloads.take received).map (quicInSession.codec.decode .reference) ++
                [.error error]) := by
  rcases quicInSession_sends with ⟨events, path⟩
  rcases framing_is_lossless .reference Crates.reference_neverEmpty quicInSession quicInSession rfl
    [firstEnvelope] events quicInSession path _ rfl ⟨.other, "finished early"⟩ with
    ⟨payloads, encoded, fits, whole, cut, _⟩
  exact ⟨events, path, payloads, encoded, fits, whole, cut⟩

end First

end Colloq
