import Colloq.Machine
import Colloq.Serde

/-!
# Envelope codecs

The reference codec writes the whole envelope. The compact codec writes the id of
a dictionary entry, the sequence number and the payload, and rebuilds the rest
from the prepared plan.
-/

namespace Colloq

open Checked (ensure)
open Serde (readStruct readTagged readRequired readOptional readString readU64 readU16 readValue
  skipNone)

/-- `MAX_ENVELOPE_BYTES` -/
def maxEnvelopeBytes : ℕ := 16 * 1024 * 1024

namespace Frame

/-- Internally tagged by `op`. -/
def toJson : Frame → Json
  | .data sender receiver message payload => .object
      ([("op", .string "data"), ("from", .string sender), ("to", .string receiver),
        ("message", .string message)] ++ skipNone "payload" payload)
  | .select chooser label => .object
      [("op", .string "select"), ("by", .string chooser), ("label", .string label)]
  | .cancel sender receiver scope => .object
      [("op", .string "cancel"), ("from", .string sender), ("to", .string receiver),
        ("scope", .string scope)]
  | .fault observer failure => .object
      [("op", .string "fault"), ("observer", .string observer), ("failure", .string failure)]

def fromJson (json : Json) : Except String Frame := do
  let (op, content) ← readTagged "op" json
  match op with
  | "data" =>
    let members ← readStruct ["from", "to", "message", "payload"] content
    return .data (← readRequired readString members "from") (← readRequired readString members "to")
      (← readRequired readString members "message") (← readOptional readValue members "payload")
  | "select" =>
    let members ← readStruct ["by", "label"] content
    return .select (← readRequired readString members "by")
      (← readRequired readString members "label")
  | "cancel" =>
    let members ← readStruct ["from", "to", "scope"] content
    return .cancel (← readRequired readString members "from")
      (← readRequired readString members "to")
      (← readRequired readString members "scope")
  | "fault" =>
    let members ← readStruct ["observer", "failure"] content
    return .fault (← readRequired readString members "observer")
      (← readRequired readString members "failure")
  | variant => .error s!"unknown variant `{variant}`"

end Frame

namespace WireEnvelope

def toJson (envelope : WireEnvelope) : Json := .object
  [("colloq_wire", .string envelope.colloqWire), ("conversation", .string envelope.conversation),
    ("conversation_identity", .string envelope.conversationIdentity),
    ("state", .string envelope.state), ("sequence", .number (.posInt envelope.sequence)),
    ("frame", envelope.frame.toJson)]

def fromJson (json : Json) : Except String WireEnvelope := do
  let members ← readStruct
    ["colloq_wire", "conversation", "conversation_identity", "state", "sequence", "frame"] json
  return {
    colloqWire := ← readRequired readString members "colloq_wire"
    conversation := ← readRequired readString members "conversation"
    conversationIdentity := ← readRequired readString members "conversation_identity"
    state := ← readRequired readString members "state"
    sequence := ← readRequired readU64 members "sequence"
    frame := ← readRequired Frame.fromJson members "frame" }

end WireEnvelope

structure CompactEnvelope where
  transition : UInt16
  sequence : UInt64
  payload : Option Value
deriving DecidableEq

namespace CompactEnvelope

def toJson (compact : CompactEnvelope) : Json := .object
  ([("t", .number (.posInt compact.transition.toUInt64)),
    ("q", .number (.posInt compact.sequence))] ++ skipNone "p" compact.payload)

def fromJson (json : Json) : Except String CompactEnvelope := do
  let members ← readStruct ["t", "q", "p"] json
  return {
    transition := ← readRequired readU16 members "t"
    sequence := ← readRequired readU64 members "q"
    payload := ← readOptional readValue members "p" }

end CompactEnvelope

inductive WireEncoding where
  | reference
  | compact
deriving DecidableEq

structure CompactWireCodec where
  conversation : String
  conversationIdentity : String
  planIdentity : String
  wire : CompactWirePlan

inductive EnvelopeCodec where
  | reference
  | compact (codec : CompactWireCodec)

variable (crates : Crates)

/-- `encode_envelope` and `encode_compact_envelope`, from the document that is written. -/
def encodeDocument (document : Json) : Except RuntimeError (List UInt8) := do
  let encoded := crates.toVec document
  ensure (encoded.length ≤ maxEnvelopeBytes) (.envelopeTooLarge encoded.length maxEnvelopeBytes)
  return encoded

/-- The first half of `decode_envelope` and of the compact decoder. -/
def decodeDocument {α : Type} (read : Json → Except String α) (encoded : List UInt8) :
    Except RuntimeError α := do
  ensure (encoded.length ≤ maxEnvelopeBytes) (.envelopeTooLarge encoded.length maxEnvelopeBytes)
  let document ← (crates.fromSlice encoded).mapError .codec
  (read document).mapError .codec

def encodeEnvelope (envelope : WireEnvelope) : Except RuntimeError (List UInt8) :=
  encodeDocument crates envelope.toJson

def decodeEnvelope (encoded : List UInt8) : Except RuntimeError WireEnvelope :=
  decodeDocument crates WireEnvelope.fromJson encoded

def encodeCompactEnvelope (compact : CompactEnvelope) : Except RuntimeError (List UInt8) :=
  encodeDocument crates compact.toJson

def transitionMatches (transition : WireTransition) (envelope : WireEnvelope) : Bool :=
  if transition.state ≠ envelope.state then false
  else
    match transition.operation, envelope.frame with
    | .data sender receiver message, .data actualSender actualReceiver actualMessage _ =>
      sender = actualSender && receiver = actualReceiver && message = actualMessage
    | .select chooser label, .select actualChooser actualLabel =>
      chooser = actualChooser && label = actualLabel
    | .cancel sender receiver scope, .cancel actualSender actualReceiver actualScope =>
      sender = actualSender && receiver = actualReceiver && scope = actualScope
    | _, _ => false

def rejectControlPayload (compact : CompactEnvelope) : Except RuntimeError Unit :=
  ensure (compact.payload.isSome = false) (.compactWire .controlPayload)

/-- The frame of a dictionary entry, with the payload of the compact envelope. -/
def rebuildFrame (compact : CompactEnvelope) : WireOperation → Except RuntimeError Frame
  | .data sender receiver message => .ok (.data sender receiver message compact.payload)
  | .select chooser label => do
    rejectControlPayload compact
    return .select chooser label
  | .cancel sender receiver scope => do
    rejectControlPayload compact
    return .cancel sender receiver scope

namespace CompactWireCodec

def encode (codec : CompactWireCodec) (envelope : WireEnvelope) :
    Except RuntimeError (List UInt8) := do
  ensure (envelope.colloqWire = wireFormat) (.wireVersion envelope.colloqWire wireFormat)
  ensure (envelope.conversation = codec.conversation)
    (.compactWire (.otherConversation codec.conversation envelope.conversation))
  ensure (envelope.conversationIdentity = codec.conversationIdentity)
    (.compactWire (.otherIdentity codec.conversationIdentity envelope.conversationIdentity))
  match codec.wire.transitions.find? fun transition => transitionMatches transition envelope with
  | none => .error (.compactWire (.noTransition envelope.state envelope.frame))
  | some transition =>
    let payload ← match envelope.frame with
      | .data _ _ _ payload => .ok payload
      | .select .. | .cancel .. => .ok none
      | .fault .. => .error (.compactWire .localFault)
    encodeCompactEnvelope crates
      { transition := transition.id, sequence := envelope.sequence, payload }

/-- The entry at the index one below the id, if it carries that id. -/
def lookup (codec : CompactWireCodec) (id : UInt16) : Option WireTransition :=
  if id = 0 then none
  else codec.wire.transitions[id.toNat - 1]?.filter fun transition => transition.id == id

def decode (codec : CompactWireCodec) (encoded : List UInt8) :
    Except RuntimeError WireEnvelope := do
  let compact ← decodeDocument crates CompactEnvelope.fromJson encoded
  match codec.lookup compact.transition with
  | none => .error (.compactWire (.unknownTransition compact.transition))
  | some transition =>
    let frame ← rebuildFrame compact transition.operation
    return {
      colloqWire := wireFormat
      conversation := codec.conversation
      conversationIdentity := codec.conversationIdentity
      state := transition.state
      sequence := compact.sequence
      frame }

end CompactWireCodec

namespace EnvelopeCodec

def forPlan (encoding : WireEncoding) (plan : PreparedPlan) : EnvelopeCodec :=
  match encoding with
  | .reference => .reference
  | .compact => .compact
      { conversation := plan.conversation, conversationIdentity := plan.conversationIdentity,
        planIdentity := plan.planIdentity, wire := plan.wire }

def encode (codec : EnvelopeCodec) (envelope : WireEnvelope) :
    Except RuntimeError (List UInt8) :=
  match codec with
  | .reference => encodeEnvelope crates envelope
  | .compact codec => codec.encode crates envelope

def decode (codec : EnvelopeCodec) (encoded : List UInt8) : Except RuntimeError WireEnvelope :=
  match codec with
  | .reference => decodeEnvelope crates encoded
  | .compact codec => codec.decode crates encoded

end EnvelopeCodec

end Colloq
