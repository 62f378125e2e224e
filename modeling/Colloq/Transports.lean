import Colloq.Codec
import Colloq.Library.Stream

/-!
# Network transports

The TCP, QUIC and Iroh transports on one byte stream each: the session preface
that both peers exchange and verify, the frames that carry envelopes, and the
close marker of QUIC. A transport is a program on its stream; what the stream
answers is not part of it.
-/

namespace Colloq

open Checked (ensure)
open Program (Stateful)
open Program.Stateful (ask)
open Serde (readStruct readRequired readOptional readString)
open Streaming (StreamOp toBeBytes fromBeBytes)

/-- `SESSION_FORMAT` -/
def sessionFormat : String := "0.1.0"

/-- `MAX_SESSION_PREFACE_BYTES` -/
def maxSessionPrefaceBytes : ℕ := 64 * 1024

/-- `SESSION_REJECTED` -/
def sessionRejected : UInt8 := 0

/-- `SESSION_ACCEPTED` -/
def sessionAccepted : UInt8 := 1

theorem lt_size_of_le_maxEnvelopeBytes {length : ℕ} (limited : length ≤ maxEnvelopeBytes) :
    length < UInt32.size := by
  rw [maxEnvelopeBytes] at limited
  rw [UInt32.size]
  omega

theorem lt_size_of_le_maxSessionPrefaceBytes {length : ℕ}
    (limited : length ≤ maxSessionPrefaceBytes) : length < UInt32.size := by
  rw [maxSessionPrefaceBytes] at limited
  rw [UInt32.size]
  omega

/-! ## Session prefaces -/

namespace WireEncoding

def asStr : WireEncoding → String
  | .reference => "reference"
  | .compact => "compact"

/-- A unit variant may also be written as the only member of an object. -/
def fromJson : Json → Except String WireEncoding
  | .string variant | .object [(variant, .null)] =>
    if variant = "reference" then .ok .reference
    else if variant = "compact" then .ok .compact
    else .error s!"unknown variant `{variant}`"
  | _ => .error "invalid type, expected a variant of WireEncoding"

end WireEncoding

structure SessionPreface where
  colloqSession : String
  conversation : String
  conversationIdentity : String
  planIdentity : String
  role : String
  wire : WireEncoding
  endpointIdentity : Option String
  channelBinding : Option String
deriving DecidableEq

def requireSessionField (field expected actual : String) : Except RuntimeError Unit :=
  ensure (expected = actual) (.sessionMismatch field expected actual)

namespace SessionPreface

/-- `skip_serializing_if = "Option::is_none"` -/
def skipAbsent (name : String) : Option String → List (String × Json)
  | none => []
  | some value => [(name, .string value)]

def toJson (preface : SessionPreface) : Json := .object
  ([("colloq_session", .string preface.colloqSession),
    ("conversation", .string preface.conversation),
    ("conversation_identity", .string preface.conversationIdentity),
    ("plan_identity", .string preface.planIdentity), ("role", .string preface.role),
    ("wire", .string preface.wire.asStr)] ++
    skipAbsent "endpoint_identity" preface.endpointIdentity ++
    skipAbsent "channel_binding" preface.channelBinding)

def fromJson (json : Json) : Except String SessionPreface := do
  let members ← readStruct ["colloq_session", "conversation", "conversation_identity",
    "plan_identity", "role", "wire", "endpoint_identity", "channel_binding"] json
  return {
    colloqSession := ← readRequired readString members "colloq_session"
    conversation := ← readRequired readString members "conversation"
    conversationIdentity := ← readRequired readString members "conversation_identity"
    planIdentity := ← readRequired readString members "plan_identity"
    role := ← readRequired readString members "role"
    wire := ← readRequired WireEncoding.fromJson members "wire"
    endpointIdentity := ← readOptional readString members "endpoint_identity"
    channelBinding := ← readOptional readString members "channel_binding" }

def forPlan (plan : PreparedPlan) (role : String) (wire : WireEncoding) :
    Except RuntimeError SessionPreface := do
  ensure ((plan.endpoint role).isSome = true) (.unknownRole role)
  return {
    colloqSession := sessionFormat
    conversation := plan.conversation
    conversationIdentity := plan.conversationIdentity
    planIdentity := plan.planIdentity
    role, wire
    endpointIdentity := none
    channelBinding := none }

def verifyPeer (preface : SessionPreface) (plan : PreparedPlan) (expectedRole : String)
    (expectedWire : WireEncoding) : Except RuntimeError Unit := do
  ensure ((plan.endpoint expectedRole).isSome = true) (.unknownRole expectedRole)
  requireSessionField "colloq_session" sessionFormat preface.colloqSession
  requireSessionField "conversation" plan.conversation preface.conversation
  requireSessionField "conversation_identity" plan.conversationIdentity
    preface.conversationIdentity
  requireSessionField "plan_identity" plan.planIdentity preface.planIdentity
  requireSessionField "role" expectedRole preface.role
  requireSessionField "wire" expectedWire.asStr preface.wire.asStr

end SessionPreface

namespace EnvelopeCodec

def encoding : EnvelopeCodec → WireEncoding
  | .reference => .reference
  | .compact _ => .compact

def verifyPlan (codec : EnvelopeCodec) (plan : PreparedPlan) : Except RuntimeError Unit :=
  match codec with
  | .reference => .ok ()
  | .compact codec => do
    requireSessionField "conversation" codec.conversation plan.conversation
    requireSessionField "conversation_identity" codec.conversationIdentity
      plan.conversationIdentity
    requireSessionField "plan_identity" codec.planIdentity plan.planIdentity

end EnvelopeCodec

def localSessionPreface (codec : EnvelopeCodec) (plan : PreparedPlan)
    (localRole peerRole : String) : Except RuntimeError SessionPreface := do
  codec.verifyPlan plan
  ensure ((plan.endpoint peerRole).isSome = true) (.unknownRole peerRole)
  ensure (localRole ≠ peerRole)
    (.sessionMismatch "role_pair" "distinct local and peer roles" localRole)
  SessionPreface.forPlan plan localRole codec.encoding

def encodeSessionPreface (crates : Crates) (preface : SessionPreface) :
    Except RuntimeError (List UInt8) := do
  let encoded := crates.toVec preface.toJson
  ensure (encoded.length ≤ maxSessionPrefaceBytes)
    (.sessionPrefaceTooLarge encoded.length maxSessionPrefaceBytes)
  return encoded

def decodeSessionPreface (crates : Crates) (encoded : List UInt8) :
    Except RuntimeError SessionPreface := do
  ensure (encoded.length ≤ maxSessionPrefaceBytes)
    (.sessionPrefaceTooLarge encoded.length maxSessionPrefaceBytes)
  let document ← (crates.fromSlice encoded).mapError .codec
  (SessionPreface.fromJson document).mapError .codec

/-! ## Transports and their streams -/

/-- What a transport knows of an authenticated Iroh connection. -/
structure IrohConnection where
  /-- `endpoint.id()` -/
  endpoint : String
  /-- `connection.remote_id()` -/
  remoteIdentity : String
  /-- `connection.export_keying_material`, by the context. -/
  exportKeyingMaterial : String → Except String (Vector UInt8 32)

inductive NetworkKind where
  | tcp
  | quic
  | iroh (connection : IrohConnection)

/-- An error of a stream: TCP tells its kind, QUIC and Iroh its text. -/
structure StreamError where
  kind : IoErrorKind
  text : String

namespace NetworkKind

def name : NetworkKind → String
  | .tcp => "TCP"
  | .quic => "QUIC"
  | .iroh _ => "Iroh"

def error : NetworkKind → StreamError → RuntimeError
  | .tcp, error => .io error.kind
  | .quic, error => .quic error.text
  | .iroh _, error => .iroh error.text

end NetworkKind

/-- `finished` is not used by TCP. -/
structure NetworkTransport where
  kind : NetworkKind
  codec : EnvelopeCodec
  sessionEstablished : Bool := false
  finished : Bool := false

/-- A program of a transport on its stream. -/
abbrev Networking :=
  Stateful (StreamOp UInt8) (StreamOp.Answer UInt8 StreamError) NetworkTransport RuntimeError

namespace NetworkKind

variable (kind : NetworkKind)

/-- The `?` on an answer of the stream. -/
def check {α : Type} (answer : Except StreamError α) : Networking α :=
  ofExcept (answer.mapError kind.error)

def writeAll (bytes : List UInt8) : Networking Unit := do
  let answer : Except StreamError Unit ← ask (StreamOp.writeAll bytes)
  kind.check answer

def readExact (length : ℕ) : Networking (Vector UInt8 length) := do
  let answer : Except StreamError (Vector UInt8 length) ← ask (StreamOp.readExact length)
  kind.check answer

/-- Only TCP flushes its stream. -/
def flush : Networking Unit :=
  match kind with
  | .tcp => do
    let answer : Except StreamError Unit ← ask StreamOp.flush
    kind.check answer
  | .quic | .iroh _ => pure ()

/-- The bytes behind their length, which has to fit in a `u32`. -/
def writeFrame (tooLarge : ℕ → ℕ → RuntimeError) (encoded : List UInt8) : Networking Unit := do
  ofExcept (ensure (encoded.length < UInt32.size) (tooLarge encoded.length (UInt32.size - 1)))
  kind.writeAll (toBeBytes (.ofNat encoded.length))
  kind.writeAll encoded
  kind.flush

/-- A length, and as many bytes, unless the length is above the limit. -/
def readFrame (tooLarge : ℕ → ℕ → RuntimeError) (limit : ℕ) (onTooLarge : Networking Unit) :
    Networking (List UInt8) := do
  let length ← kind.readExact 4
  if fromBeBytes length > limit then
    onTooLarge
    throw (tooLarge (fromBeBytes length) limit)
  let encoded ← kind.readExact (fromBeBytes length)
  return encoded.toList

end NetworkKind

/-- `TcpStream::shutdown` or `Connection::close` -/
def abort : Networking Unit := ask StreamOp.close

/-! ## Session establishment -/

namespace NetworkKind

variable (kind : NetworkKind)

/-- Iroh closes the connection of a peer whose preface is too large, the others do not. -/
def abortOversized : Networking Unit :=
  match kind with
  | .tcp | .quic => pure ()
  | .iroh _ => abort

/-- The rejection is written as far as the stream still takes it. -/
def rejectPeer {α : Type} (error : RuntimeError) : Networking α := do
  let _ : Except StreamError Unit ← ask (StreamOp.writeAll [sessionRejected])
  tryCatch kind.flush fun _ => pure ()
  abort
  throw error

def statusExchange : Networking UInt8 := do
  kind.writeAll [sessionAccepted]
  kind.flush
  let status ← kind.readExact 1
  return status[0]

/-- From the verified preface of the peer to its verdict on the own one. -/
def acceptPeer (peer : SessionPreface) : Networking SessionPreface := do
  let status ← tryCatch kind.statusExchange fun error => do
    abort
    throw error
  if status ≠ sessionAccepted then
    abort
    throw (.sessionRejected kind.name)
  modify fun transport => { transport with sessionEstablished := true }
  return peer

def decodePeer (crates : Crates) (verify : SessionPreface → Except RuntimeError Unit)
    (encoded : List UInt8) : Except RuntimeError SessionPreface := do
  let peer ← decodeSessionPreface crates encoded
  verify peer
  return peer

def exchangePrefaces (crates : Crates) (own : SessionPreface)
    (verify : SessionPreface → Except RuntimeError Unit) : Networking SessionPreface := do
  let encoded ← ofExcept (encodeSessionPreface crates own)
  kind.writeFrame .sessionPrefaceTooLarge encoded
  let peerEncoded ←
    kind.readFrame .sessionPrefaceTooLarge maxSessionPrefaceBytes kind.abortOversized
  match decodePeer crates verify peerEncoded with
  | .error error => kind.rejectPeer error
  | .ok peer => kind.acceptPeer peer

end NetworkKind

def TcpTransport.establishSession (crates : Crates) (plan : PreparedPlan)
    (localRole peerRole : String) : Networking SessionPreface := do
  let transport ← get
  let own ← ofExcept (localSessionPreface transport.codec plan localRole peerRole)
  NetworkKind.tcp.exchangePrefaces crates own fun peer =>
    peer.verifyPeer plan peerRole transport.codec.encoding

def QuicTransport.establishSession (crates : Crates) (plan : PreparedPlan)
    (localRole peerRole : String) : Networking SessionPreface := do
  let transport ← get
  let own ← ofExcept (localSessionPreface transport.codec plan localRole peerRole)
  NetworkKind.quic.exchangePrefaces crates own fun peer =>
    peer.verifyPeer plan peerRole transport.codec.encoding

/-- The keying material is exported for the identity of the plan. -/
def channelBinding (connection : IrohConnection) (plan : PreparedPlan) :
    Except RuntimeError String := do
  let binding ← (connection.exportKeyingMaterial plan.planIdentity).mapError fun error =>
    .iroh s!"TLS exporter failed: {error}"
  return "tls-exporter:" ++ String.ofList (binding.toList.flatMap hexByte)

def verifyIrohSessionPreface (peer : SessionPreface) (plan : PreparedPlan) (peerRole : String)
    (encoding : WireEncoding) (remoteIdentity channelBinding : String) :
    Except RuntimeError Unit := do
  peer.verifyPeer plan peerRole encoding
  requireSessionField "endpoint_identity" remoteIdentity (peer.endpointIdentity.getD "missing")
  requireSessionField "channel_binding" channelBinding (peer.channelBinding.getD "missing")

def IrohTransport.establishSession (crates : Crates) (connection : IrohConnection)
    (plan : PreparedPlan) (localRole peerRole : String) : Networking SessionPreface := do
  let transport ← get
  let binding ← ofExcept (channelBinding connection plan)
  let own ← ofExcept (localSessionPreface transport.codec plan localRole peerRole)
  (NetworkKind.iroh connection).exchangePrefaces crates
    { own with endpointIdentity := some connection.endpoint, channelBinding := some binding }
    fun peer => verifyIrohSessionPreface peer plan peerRole transport.codec.encoding
      connection.remoteIdentity binding

/-! ## Frames -/

/-- TCP and QUIC ask for a session only if the codec is compact. -/
def NetworkTransport.requireCompactSession (transport : NetworkTransport) :
    Except RuntimeError Unit :=
  ensure (¬(transport.codec.encoding = .compact ∧ transport.sessionEstablished = false))
    (.sessionRequired transport.kind.name)

/-- Iroh asks for a session in either encoding. -/
def IrohTransport.requireSession (transport : NetworkTransport) : Except RuntimeError Unit :=
  ensure (transport.sessionEstablished = true) (.sessionRequired transport.kind.name)

namespace NetworkTransport

def requireSession (transport : NetworkTransport) : Except RuntimeError Unit :=
  match transport.kind with
  | .tcp | .quic => transport.requireCompactSession
  | .iroh _ => IrohTransport.requireSession transport

def establishSession (crates : Crates) (plan : PreparedPlan) (localRole peerRole : String) :
    Networking SessionPreface := do
  let transport ← get
  match transport.kind with
  | .tcp => TcpTransport.establishSession crates plan localRole peerRole
  | .quic => QuicTransport.establishSession crates plan localRole peerRole
  | .iroh connection => IrohTransport.establishSession crates connection plan localRole peerRole

def send (crates : Crates) (envelope : WireEnvelope) : Networking Unit := do
  let transport ← get
  ofExcept transport.requireSession
  let encoded ← ofExcept (transport.codec.encode crates envelope)
  transport.kind.writeFrame .envelopeTooLarge encoded

def receive (crates : Crates) : Networking WireEnvelope := do
  let transport ← get
  ofExcept transport.requireSession
  let encoded ← transport.kind.readFrame .envelopeTooLarge maxEnvelopeBytes (pure ())
  ofExcept (transport.codec.decode crates encoded)

end NetworkTransport

/-! ## The close marker of QUIC -/

/-- `0_u32.to_be_bytes()` -/
def closeMarker : List UInt8 := toBeBytes 0

def readQuicCloseMarker : Networking Unit := do
  let marker ← NetworkKind.quic.readExact 4
  ofExcept (ensure (fromBeBytes marker = 0) (.quic "expected Colloq QUIC close marker"))

/-- Publishing the end of the stream and waiting for its acknowledgement are best effort. -/
def QuicTransport.finish (role : String) : Networking Unit := do
  let transport ← get
  if transport.finished then
    return ()
  if role = "client" then
    NetworkKind.quic.writeAll closeMarker
    readQuicCloseMarker
    abort
  else if role = "server" then
    readQuicCloseMarker
    NetworkKind.quic.writeAll closeMarker
  else
    throw (.quic s!"QUIC close handshake does not support role {role}")
  set { transport with finished := true }

end Colloq
