import Colloq.Generate
import Colloq.Library.TurnTaking

/-!
# The draft exchange

The two roles that synchronise a draft over a conversation, as programs that call
on a transport. A draft with its sync session is any state machine that yields
messages and takes them; the programs keep a log of both.
-/

namespace Colloq

open TurnTaking (Side)

/-- `MAX_SYNC_ROUNDS` -/
def maxSyncRounds : ℕ := 1024

/-- An `AutomergeDraft` together with its `DraftSyncSession`. -/
structure Draft (σ : Type) where
  generateSyncMessage : σ → Option (List UInt8) × σ
  receiveSyncMessage : List UInt8 → σ → σ
  heads : σ → List String

/-- The texts of payload errors, by the values that they print. -/
inductive PayloadDetail where
  /-- `client expected server sync choice, received {frame:?}` -/
  | expectedServerChoice (frame : Frame)
  /-- `server expected client sync choice, received {frame:?}` -/
  | expectedClientChoice (frame : Frame)
  /-- `sync payload must be an object` -/
  | notObject
  /-- `sync payload has no bytes string` -/
  | noBytes
  /-- `expected sync data, received {frame:?}` -/
  | expectedSync (frame : Frame)
  /-- `sync bytes are not even-length hexadecimal` -/
  | notEvenLength
  /-- `sync bytes are not hexadecimal` -/
  | notHexadecimal

/-- A draft takes every message, so there are no draft errors. -/
inductive DraftExchangeError where
  | runtime (error : RuntimeError)
  | payload (detail : PayloadDetail)
  | tooManyRounds

structure DraftExchangeReport where
  role : String
  transport : String
  conversationIdentity : String
  planIdentity : String
  messagesSent : ℕ
  messagesReceived : ℕ
  frames : UInt64
  completed : Bool
  heads : List String

/-! ## Payloads -/

def encodeHex (bytes : List UInt8) : String := String.ofList (bytes.flatMap hexByte)

/-- A digit in base 16, of either case. -/
def hexDigit (character : Char) : Option ℕ :=
  if '0' ≤ character ∧ character ≤ '9' then some (character.toNat - '0'.toNat)
  else if 'a' ≤ character ∧ character ≤ 'f' then some (character.toNat - 'a'.toNat + 10)
  else if 'A' ≤ character ∧ character ≤ 'F' then some (character.toNat - 'A'.toNat + 10)
  else none

/-- `u8::from_str_radix(text, 16)` of two characters, of which the first may be a plus sign. -/
def fromStrRadix (high low : Char) : Option UInt8 := do
  if high = '+' then
    return UInt8.ofNat (← hexDigit low)
  else
    return UInt8.ofNat (16 * (← hexDigit high) + (← hexDigit low))

/-- The bytes of the chunks of two characters. -/
def decodeChunks : List Char → Except DraftExchangeError (List UInt8)
  | high :: low :: rest => do
    match fromStrRadix high low with
    | none => .error (.payload .notHexadecimal)
    | some byte => return byte :: (← decodeChunks rest)
  | _ => return []

def decodeHex (encoded : String) : Except DraftExchangeError (List UInt8) :=
  if encoded.utf8ByteSize % 2 ≠ 0 ∨ ¬ encoded.toList.all (·.toNat < 128) then
    .error (.payload .notEvenLength)
  else
    decodeChunks encoded.toList

/-- `json!({ "bytes": encode_hex(&message) })` -/
def syncValue (message : List UInt8) : Value :=
  ⟨.object [("bytes", .string (encodeHex message))], rfl⟩

def framePayload (frame : Frame) : Except DraftExchangeError Value :=
  match frame with
  | .data _ _ "sync" (some payload) => .ok payload
  | frame => .error (.payload (.expectedSync frame))

def syncPayload (frame : Frame) : Except DraftExchangeError (List UInt8) := do
  let payload ← framePayload frame
  match payload.json with
  | .object members =>
    match (members.lookup "bytes").bind Json.asStr with
    | some encoded => decodeHex encoded
    | none => .error (.payload .noBytes)
  | _ => .error (.payload .notObject)

/-! ## The programs -/

/-- What a draft has yielded and what it has taken. -/
structure DraftLog where
  generated : List (List UInt8) := []
  received : List (List UInt8) := []

/-- The machine and the draft that a role mutates. -/
structure Exchanger (σ : Type) where
  machine : EndpointMachine
  draft : σ
  log : DraftLog := {}

/-- How a role stops before its end: with an error, or in a panic. -/
inductive ExchangeHalt where
  | error (error : DraftExchangeError)
  | panic

abbrev Exchanging (σ : Type) :=
  Program.Stateful TransportOp TransportOp.Answer (Exchanger σ) ExchangeHalt

namespace Exchanging

open Program.Stateful (ask)

variable {σ α : Type}

/-- `result?` -/
def ofExcept : Except DraftExchangeError α → Exchanging σ α
  | .ok value => pure value
  | .error error => throw (.error error)

/-- `result?` of a runtime error. -/
def ofRuntime (result : Except RuntimeError α) : Exchanging σ α :=
  ofExcept (result.mapError .runtime)

/-- An operation of the machine, followed by `?`. -/
def operate (operation : EndpointMachine → Outcome α) : Exchanging σ α := do
  let exchanger ← get
  match operation exchanger.machine with
  | none => throw .panic
  | some (result, machine) =>
    set { exchanger with machine }
    ofRuntime result

/-- `draft.generate_sync_message` -/
def generate (draft : Draft σ) : Exchanging σ (Option (List UInt8)) := do
  let exchanger ← get
  let (message, next) := draft.generateSyncMessage exchanger.draft
  set { exchanger with
    draft := next
    log.generated := exchanger.log.generated ++ message.toList }
  return message

/-- `draft.receive_sync_message` -/
def take (draft : Draft σ) (message : List UInt8) : Exchanging σ Unit :=
  modify fun exchanger => { exchanger with
    draft := draft.receiveSyncMessage message exchanger.draft
    log.received := exchanger.log.received ++ [message] }

def send (envelope : WireEnvelope) : Exchanging σ Unit := do
  let sent : Except RuntimeError Unit ← ask (TransportOp.send envelope)
  ofRuntime sent

def receive : Exchanging σ Frame := do
  let received : Except RuntimeError WireEnvelope ← ask TransportOp.receive
  let envelope ← ofRuntime received
  operate fun machine => machine.accept envelope

/-- `transport.finish(machine.role())?` -/
def finish : Exchanging σ Unit := do
  let exchanger ← get
  let finished : Except RuntimeError Unit ← ask (TransportOp.finish exchanger.machine.role)
  ofRuntime finished

def report (draft : Draft σ) (transport : String) (messagesSent messagesReceived : ℕ) :
    Exchanging σ DraftExchangeReport := do
  let exchanger ← get
  match exchanger.machine.isSuccessful with
  | none => throw .panic
  | some completed =>
    return {
      role := exchanger.machine.role
      transport
      conversationIdentity := exchanger.machine.conversationIdentity
      planIdentity := exchanger.machine.planIdentity
      messagesSent, messagesReceived
      frames := exchanger.machine.sequence
      completed
      heads := draft.heads exchanger.draft }

/-- Take a message that the peer has announced. -/
def takeAnnounced (draft : Draft σ) : Exchanging σ Unit := do
  let frame ← receive
  let message ← ofExcept (syncPayload frame)
  take draft message

/-- Announce a message and send it. -/
def sendMessage (message : List UInt8) : Exchanging σ Unit := do
  let envelope ← operate fun machine => machine.emitSelect "message"
  send envelope
  let envelope ← operate fun machine => machine.emitData (syncValue message)
  send envelope

/-- The loop of the client, with the rounds that are left of it. -/
def clientLoop (draft : Draft σ) (transport : String) :
    ℕ → ℕ → ℕ → Exchanging σ DraftExchangeReport
  | 0, _, _ => throw (.error .tooManyRounds)
  | left + 1, round, received => do
    match ← generate draft with
    | none =>
      let envelope ← operate fun machine => machine.emitSelect "done"
      send envelope
      finish
      report draft transport round received
    | some message =>
      sendMessage message
      match ← receive with
      | .select chooser label =>
        if label = "message" then
          takeAnnounced draft
          clientLoop draft transport left (round + 1) (received + 1)
        else if label = "idle" then
          clientLoop draft transport left (round + 1) received
        else
          throw (.error (.payload (.expectedServerChoice (.select chooser label))))
      | frame => throw (.error (.payload (.expectedServerChoice frame)))

/-- The loop of the server, with the rounds that are left of it. -/
def serverLoop (draft : Draft σ) (transport : String) :
    ℕ → ℕ → ℕ → Exchanging σ DraftExchangeReport
  | 0, _, _ => throw (.error .tooManyRounds)
  | left + 1, sent, received => do
    match ← receive with
    | .select chooser label =>
      if label = "done" then
        finish
        report draft transport sent received
      else if label = "message" then
        takeAnnounced draft
        match ← generate draft with
        | some message =>
          sendMessage message
          serverLoop draft transport left (sent + 1) (received + 1)
        | none =>
          let envelope ← operate fun machine => machine.emitSelect "idle"
          send envelope
          serverLoop draft transport left sent (received + 1)
      else
        throw (.error (.payload (.expectedClientChoice (.select chooser label))))
    | frame => throw (.error (.payload (.expectedClientChoice frame)))

end Exchanging

/-- What a role returns, with the log of its draft. -/
abbrev ExchangeResult := Except ExchangeHalt DraftExchangeReport × DraftLog

abbrev ExchangeProgram := Program TransportOp TransportOp.Answer ExchangeResult

/-- The result of a role, and the log that its variables hold in the end. -/
def exchangeResult {σ : Type} (ended : Except ExchangeHalt DraftExchangeReport × Exchanger σ) :
    ExchangeResult :=
  (ended.1, ended.2.log)

/-- `EndpointMachine::from_plan(plan, role)?`, then the loop on the draft. -/
def runExchange {σ : Type} (plan : PreparedPlan) (role : String) (draft : σ)
    (loop : Exchanging σ DraftExchangeReport) : ExchangeProgram :=
  match EndpointMachine.fromPlan plan role with
  | .error error => .done (.error (.error (.runtime error)), {})
  | .ok machine => exchangeResult <$> loop.start { machine, draft }

variable {σ : Type} (plan : PreparedPlan) (transport : String) (draft : Draft σ) (state : σ)

def runDraftSyncClient : ExchangeProgram :=
  runExchange plan "client" state (Exchanging.clientLoop draft transport maxSyncRounds 0 0)

def runDraftSyncServer : ExchangeProgram :=
  runExchange plan "server" state (Exchanging.serverLoop draft transport maxSyncRounds 0 0)

/-! ## Reliable channels -/

/-- The envelopes that are on their way to each side. -/
structure Channels where
  queue : Side → List WireEnvelope

namespace Channels

def push (channels : Channels) (side : Side) (envelope : WireEnvelope) : Channels where
  queue := Function.update channels.queue side (channels.queue side ++ [envelope])

/-- Every send succeeds, and what is received is what was sent, in order. -/
inductive Answers : Channels → Side → (op : TransportOp) → op.Answer → Channels → Prop where
  | sent (channels : Channels) (side : Side) (envelope : WireEnvelope) :
      Answers channels side (.send envelope) (Except.ok ()) (channels.push side.other envelope)
  | received {channels : Channels} {side : Side} {envelope : WireEnvelope}
      {rest : List WireEnvelope} (queued : channels.queue side = envelope :: rest) :
      Answers channels side .receive (Except.ok envelope)
        { queue := Function.update channels.queue side rest }
  | finished (channels : Channels) (side : Side) (role : String) :
      Answers channels side (.finish role) (Except.ok ()) channels
  | aborted (channels : Channels) (side : Side) : Answers channels side .abort () channels

end Channels

abbrev ExchangeNetwork :=
  Program.Network Side Channels TransportOp TransportOp.Answer ExchangeResult

/-- The two roles before their first step, on channels that are empty. -/
def draftExchange {τ : Type} (plan : PreparedPlan) (transport : String) (client : Draft σ)
    (server : Draft τ) (clientState : σ) (serverState : τ) : ExchangeNetwork where
  environment := { queue := Side.pair [] [] }
  program := Side.pair (runDraftSyncClient plan transport client clientState)
    (runDraftSyncServer plan transport server serverState)

end Colloq
