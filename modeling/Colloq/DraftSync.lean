import Colloq.DraftExchange
import Colloq.Library.Schedule
import Colloq.Peers

/-!
# Draft synchronisation in lock step

The two roles of a draft exchange go through their rounds together. One
interleaving shows it, and as the calls of two peers on reliable channels
commute, every interleaving ends where that one does.
-/

namespace Colloq

open TurnTaking (Side)

/-! ## Payloads -/

theorem hexDigit_digitChar {digit : ℕ} (bound : digit < 16) :
    hexDigit (Nat.digitChar digit) = some digit := by
  interval_cases digit <;> decide

theorem digitChar_ne_plus {digit : ℕ} (bound : digit < 16) : Nat.digitChar digit ≠ '+' := by
  interval_cases digit <;> decide

theorem digitChar_ascii {digit : ℕ} (bound : digit < 16) : (Nat.digitChar digit).toNat < 128 := by
  interval_cases digit <;> decide

theorem fromStrRadix_hexByte (byte : UInt8) :
    fromStrRadix (Nat.digitChar (byte.toNat / 16)) (Nat.digitChar (byte.toNat % 16)) =
      some byte := by
  have bound := byte.toNat_lt
  have high : byte.toNat / 16 < 16 := by omega
  have low : byte.toNat % 16 < 16 := by omega
  rw [fromStrRadix, if_neg (digitChar_ne_plus high), hexDigit_digitChar high,
    hexDigit_digitChar low]
  have joined : 16 * (byte.toNat / 16) + byte.toNat % 16 = byte.toNat := by omega
  change some (UInt8.ofNat (16 * (byte.toNat / 16) + byte.toNat % 16)) = some byte
  rw [joined, UInt8.ofNat_toNat]

theorem decodeChunks_hexBytes (bytes : List UInt8) :
    decodeChunks (bytes.flatMap hexByte) = .ok bytes := by
  induction bytes with
  | nil => rfl
  | cons byte bytes ih =>
      simp only [List.flatMap_cons, hexByte, List.cons_append, List.nil_append, decodeChunks,
        fromStrRadix_hexByte]
      rw [show (List.flatMap _ bytes) = bytes.flatMap hexByte from rfl, ih]
      rfl

theorem utf8ByteSize_ofList_of_ascii {characters : List Char}
    (ascii : ∀ character ∈ characters, character.toNat < 128) :
    (String.ofList characters).utf8ByteSize = characters.length := by
  induction characters with
  | nil => rfl
  | cons character characters ih =>
      have head : character.utf8Size = 1 := by
        rw [Char.utf8Size_eq_one_iff, UInt32.le_iff_toNat_le]
        exact Nat.le_of_lt_succ (ascii character (by simp))
      have rest := ih fun one member => ascii one (List.mem_cons_of_mem _ member)
      rw [String.ofList_cons, String.utf8ByteSize_append, String.utf8ByteSize_singleton, head,
        rest, List.length_cons, Nat.add_comm]

/-- The payload of a sync message is decoded to its bytes. -/
theorem decodeHex_encodeHex (bytes : List UInt8) : decodeHex (encodeHex bytes) = .ok bytes := by
  have ascii : ∀ character ∈ bytes.flatMap hexByte, character.toNat < 128 := by
    intro character member
    rcases List.mem_flatMap.mp member with ⟨byte, _, digit⟩
    have bound := byte.toNat_lt
    simp only [hexByte, List.mem_cons, List.not_mem_nil, or_false] at digit
    rcases digit with same | same
    · rw [same]
      exact digitChar_ascii (by omega)
    · rw [same]
      exact digitChar_ascii (by omega)
  have even : (encodeHex bytes).utf8ByteSize % 2 = 0 := by
    rw [encodeHex, utf8ByteSize_ofList_of_ascii ascii, length_flatMap_hexByte]
    exact Nat.mul_mod_right 2 bytes.length
  rw [decodeHex, if_neg]
  · rw [encodeHex, String.toList_ofList, decodeChunks_hexBytes]
  · rw [not_or, not_not, not_not]
    refine ⟨even, ?_⟩
    rw [encodeHex, String.toList_ofList, List.all_eq_true]
    intro character member
    exact decide_eq_true (ascii character member)

theorem syncPayload_syncValue (sender receiver : String) (message : List UInt8) :
    syncPayload (.data sender receiver "sync" (some (syncValue message))) = .ok message :=
  decodeHex_encodeHex message

/-! ## The conversation -/

/-- The kind of a type that has fields. -/
def recordKind : Value := ⟨.string "record", rfl⟩

/-- `examples/draft-sync.colloqconv.json` -/
def Conversation.draftSync : Conversation where
  schema := some "../spec/colloq-conversation-v0.schema.json"
  colloqConversation := "0.1.0"
  module := { id := "colloq.draft-sync", semanticVersion := some "0.1.0" }
  roles :=
    [{ id := "client", placement := ["node"], capabilities := ["draft.sync"] },
      { id := "server", placement := ["node"], capabilities := ["draft.sync"] }]
  types :=
    [{ id := "sync"
       definition :=
        {("kind", recordKind),
          ("fields", ⟨.array [.object [("id", .string "bytes"), ("type", .string "string")]],
            rfl⟩)} }]
  initial := "client-turn"
  states :=
    [.choice "client-turn" "client" {("message", "client-send"), ("done", "end")} ∅,
      .send "client-send" "client" "server" "sync" "server-turn" none ∅,
      .choice "server-turn" "server" {("message", "server-send"), ("idle", "client-turn")} ∅,
      .send "server-send" "server" "client" "sync" "client-turn" none ∅,
      .end "end"]

namespace DraftSync

theorem compilable : Conversation.draftSync.Compilable where
  toWellFormed := (validate_eq_ok_iff _).mp rfl
  module_valid := by decide
  role_valid := by decide
  state_valid := by decide
  transitionCount_le := by decide

def role : Side → String := Side.pair "client" "server"

theorem sides : Conversation.draftSync.Sides role := ⟨compilable.toWellFormed, rfl⟩

variable {crates : Crates}

/-- The machine of a side, after frames that have led it to a state. -/
def machine (crates : Crates) (side : Side) (current : String) (sequence : UInt64) :
    EndpointMachine :=
  { Conversation.draftSync.initialMachine crates (role side) with current, sequence }

theorem belongs {current : String} (hasState : Conversation.draftSync.HasState current)
    (side : Side) (sequence : UInt64) :
    (machine crates side current sequence).Belongs crates .draftSync (role side) := by
  have hasRole : Conversation.draftSync.HasRole (role side) := sides.hasRole_iff.mpr ⟨side, rfl⟩
  have executes : (Conversation.draftSync.initialMachine crates (role side)).Executes _ :=
    compilable.executes_initialMachine hasRole
  exact ⟨⟨executes.wellFormed, executes.endpoint_eq, executes.role_mem, hasState⟩, rfl, rfl⟩

/-- The envelope of a frame that a side emits. -/
def envelope (crates : Crates) (current : String) (sequence : UInt64) (frame : Frame) :
    WireEnvelope :=
  Conversation.draftSync.seal crates ⟨current, sequence, frame⟩

/-- What one machine emits, the other one accepts, and they move on together. -/
theorem exchanged {current next : String} {side : Side} {frame : Frame}
    {action : EndpointMachine.Action} (sequence : UInt64)
    (hasState : Conversation.draftSync.HasState current)
    (acts : frame.action = some action) (author : frame.author = some (role side))
    (allowed : Conversation.draftSync.next current frame = some next) :
    (machine crates side current sequence).perform action =
        some (.ok (envelope crates current sequence frame),
          machine crates side next (sequence + 1)) ∧
      (machine crates side.other current sequence).accept
          (envelope crates current sequence frame) =
        some (.ok frame, machine crates side.other next (sequence + 1)) := by
  have floor := sides.speaker_eq author
  have moves := sides.next_protocol_iff.mpr ⟨side, author, allowed⟩
  refine ⟨?_, ?_⟩
  · exact (EndpointMachine.Belongs.perform_eq_ok_iff sides (belongs hasState side sequence)).mpr
      ⟨frame, next, acts, floor, moves, rfl, rfl⟩
  · rw [EndpointMachine.Belongs.accept_eq_ok_iff sides (belongs hasState side.other sequence),
      Side.other_other]
    exact ⟨rfl, floor, next, moves, rfl⟩

/-- The states in which a side has the turn, and in which it sends what it has announced. -/
def turn : Side → String := Side.pair "client-turn" "server-turn"

def sending : Side → String := Side.pair "client-send" "server-send"

/-- The frames of a side. -/
def announcement (side : Side) (label : String) : Frame := .select (role side) label

def messageFrame (side : Side) (message : List UInt8) : Frame :=
  .data (role side) (role side.other) "sync" (some (syncValue message))

theorem next_announcement (side : Side) : Conversation.draftSync.next (turn side)
    (announcement side "message") = some (sending side) := by
  cases side <;> rfl

theorem next_messageFrame (side : Side) (message : List UInt8) :
    Conversation.draftSync.next (sending side) (messageFrame side message) =
      some (turn side.other) := by
  cases side <;> rfl

theorem next_idle : Conversation.draftSync.next (turn .right) (announcement .right "idle") =
    some (turn .left) := rfl

theorem next_done : Conversation.draftSync.next (turn .left) (announcement .left "done") =
    some "end" := rfl

theorem hasState_turn (side : Side) : Conversation.draftSync.HasState (turn side) := by
  cases side <;> simp [Conversation.HasState, Conversation.draftSync, turn, GlobalState.id]

theorem hasState_sending (side : Side) : Conversation.draftSync.HasState (sending side) := by
  cases side <;> simp [Conversation.HasState, Conversation.draftSync, sending, GlobalState.id]

end DraftSync

/-! ## The paths of a role -/

open Program (Path Answered)
open Program.Stateful (path_bind path_ask_bind)

namespace Exchanging

variable {σ : Type} {exchanger : Exchanger σ}

theorem path_operate {α : Type} {operation : EndpointMachine → Outcome α} {value : α}
    {machine : EndpointMachine}
    (returned : operation exchanger.machine = some (.ok value, machine)) :
    Path ((operate operation).start exchanger) []
      (.done (.ok value, { exchanger with machine })) := by
  have operates : (operate operation).start exchanger =
      .done (.ok value, { exchanger with machine }) := by
    simp [operate, Program.Stateful.start_bind, returned, ofRuntime, ofExcept, Except.mapError]
  rw [operates]
  exact .refl _

theorem path_send (envelope : WireEnvelope) :
    Path ((send envelope).start exchanger) [⟨.send envelope, Except.ok ()⟩]
      (.done (.ok (), exchanger)) := .call (.refl _)

theorem path_receive {envelope : WireEnvelope} {frame : Frame} {machine : EndpointMachine}
    (accepted : exchanger.machine.accept envelope = some (.ok frame, machine)) :
    Path (receive.start exchanger) [⟨.receive, Except.ok envelope⟩]
      (.done (.ok frame, { exchanger with machine })) := by
  have operated : Path ((operate fun machine => machine.accept envelope).start exchanger) []
      (.done (.ok frame, { exchanger with machine })) := path_operate accepted
  exact path_ask_bind operated

theorem path_generate {draft : Draft σ} {message : Option (List UInt8)} {next : σ}
    (generates : draft.generateSyncMessage exchanger.draft = (message, next)) :
    Path ((generate draft).start exchanger) []
      (.done (.ok message,
        { exchanger with
          draft := next
          log.generated := exchanger.log.generated ++ message.toList })) := by
  have generated : (generate draft).start exchanger =
      .done (.ok message,
        { exchanger with
          draft := next
          log.generated := exchanger.log.generated ++ message.toList }) := by
    simp [generate, Program.Stateful.start_bind, generates]
  rw [generated]
  exact .refl _

/-- A draft without a message leaves the log as it is. -/
theorem path_generate_none {draft : Draft σ} {next : σ}
    (generates : draft.generateSyncMessage exchanger.draft = (none, next)) :
    Path ((generate draft).start exchanger) []
      (.done (.ok none, { exchanger with draft := next })) := by
  simpa using path_generate generates

theorem path_takeAnnounced (draft : Draft σ) {envelope : WireEnvelope} {frame : Frame}
    {machine : EndpointMachine} {message : List UInt8}
    (accepted : exchanger.machine.accept envelope = some (.ok frame, machine))
    (payload : syncPayload frame = .ok message) :
    Path ((takeAnnounced draft).start exchanger) [⟨.receive, Except.ok envelope⟩]
      (.done (.ok (),
        { machine
          draft := draft.receiveSyncMessage message exchanger.draft
          log := { exchanger.log with received := exchanger.log.received ++ [message] } })) := by
  apply path_bind (path_receive accepted)
  rw [payload]
  exact .refl _

end Exchanging

namespace DraftSync

open Exchanging

variable {σ τ : Type}

/-- The envelopes of a round, by the sequence number at which they are sent. -/
def announced (crates : Crates) (side : Side) (label : String) (sequence : UInt64) :
    WireEnvelope :=
  envelope crates (turn side) sequence (announcement side label)

def carried (crates : Crates) (side : Side) (sequence : UInt64) (message : List UInt8) :
    WireEnvelope :=
  envelope crates (sending side) sequence (messageFrame side message)

/-- A role that has the turn announces what it does. -/
theorem path_announce (side : Side) {label next : String} (sequence : UInt64) (draft : σ)
    (log : DraftLog)
    (allowed : Conversation.draftSync.next (turn side) (announcement side label) = some next) :
    Path ((operate fun machine => machine.emitSelect label).start
        { machine := machine crates side (turn side) sequence, draft, log }) []
      (.done (.ok (announced crates side label sequence),
        { machine := machine crates side next (sequence + 1), draft, log })) := by
  have selects : (machine crates side (turn side) sequence).perform (.select label) =
      some (.ok (announced crates side label sequence),
        machine crates side next (sequence + 1)) :=
    (exchanged sequence (hasState_turn side) rfl rfl allowed).1
  exact path_operate selects

/-- Its peer hears it. -/
theorem path_announced (side : Side) {label next : String} (sequence : UInt64) (draft : σ)
    (log : DraftLog)
    (allowed : Conversation.draftSync.next (turn side) (announcement side label) = some next) :
    Path (receive.start
        { machine := machine crates side.other (turn side) sequence, draft, log })
      [⟨.receive, Except.ok (announced crates side label sequence)⟩]
      (.done (.ok (announcement side label),
        { machine := machine crates side.other next (sequence + 1), draft, log })) :=
  path_receive (exchanged sequence (hasState_turn side) rfl rfl allowed).2

/-- A role that has the turn sends its message. -/
theorem path_message (side : Side) (sequence : UInt64) (message : List UInt8) (draft : σ)
    (log : DraftLog) :
    Path ((sendMessage message).start
        { machine := machine crates side (turn side) sequence, draft, log })
      [⟨.send (announced crates side "message" sequence), Except.ok ()⟩,
        ⟨.send (carried crates side (sequence + 1) message), Except.ok ()⟩]
      (.done (.ok (),
        { machine := machine crates side (turn side.other) (sequence + 1 + 1), draft, log })) := by
  have emits : (machine crates side (sending side) (sequence + 1)).perform
      (.data (syncValue message)) = some (.ok (carried crates side (sequence + 1) message),
        machine crates side (turn side.other) (sequence + 1 + 1)) :=
    (exchanged (sequence + 1) (hasState_sending side) rfl rfl
      (next_messageFrame side message)).1
  have speaks : Path ((operate fun machine => machine.emitData (syncValue message)).start
      { machine := machine crates side (sending side) (sequence + 1), draft, log }) []
      (.done (.ok (carried crates side (sequence + 1) message),
        { machine := machine crates side (turn side.other) (sequence + 1 + 1), draft, log })) :=
    path_operate emits
  exact path_bind (path_announce side sequence draft log (next_announcement side))
    (path_bind (path_send _) (path_bind speaks (path_send _)))

/-- Its peer takes the message. -/
theorem path_carried (draft : Draft σ) (side : Side) (sequence : UInt64) (message : List UInt8)
    (state : σ) (log : DraftLog) :
    Path ((takeAnnounced draft).start
        { machine := machine crates side.other (sending side) sequence, draft := state, log })
      [⟨.receive, Except.ok (carried crates side sequence message)⟩]
      (.done (.ok (),
        { machine := machine crates side.other (turn side.other) (sequence + 1)
          draft := draft.receiveSyncMessage message state
          log := { log with received := log.received ++ [message] } })) :=
  path_takeAnnounced draft
    (exchanged sequence (hasState_sending side) rfl rfl (next_messageFrame side message)).2
    (syncPayload_syncValue _ _ message)

/-- The report of a role whose conversation has ended. -/
def reported (crates : Crates) (side : Side) (transport : String) (draft : Draft σ) (state : σ)
    (sequence : UInt64) (messagesSent messagesReceived : ℕ) : DraftExchangeReport where
  role := role side
  transport
  conversationIdentity := conversationIdentityValidated crates .draftSync
  planIdentity := (machine crates side "end" sequence).planIdentity
  messagesSent
  messagesReceived
  frames := sequence
  completed := true
  heads := draft.heads state

theorem path_report (side : Side) (transport : String) (draft : Draft σ) (state : σ)
    (log : DraftLog) (sequence : UInt64) (messagesSent messagesReceived : ℕ) :
    Path ((finish >>= fun _ => report draft transport messagesSent messagesReceived).start
        { machine := machine crates side "end" sequence, draft := state, log })
      [⟨.finish (role side), Except.ok ()⟩]
      (.done (.ok (reported crates side transport draft state sequence messagesSent
          messagesReceived),
        { machine := machine crates side "end" sequence, draft := state, log })) := by
  cases side <;> exact .call (.refl _)

section Rounds

variable {client : Draft σ} {server : Draft τ} {state next : σ} {peer after : τ}
  {message answer : List UInt8} {log : DraftLog}
  (transport : String) (left round received sent : ℕ) (sequence : UInt64)

/-- The client has a message, and takes the answer of the server. -/
theorem path_client_answered (answer : List UInt8)
    (generates : client.generateSyncMessage state = (some message, next)) :
    Path ((clientLoop client transport (left + 1) round received).start
        { machine := machine crates .left (turn .left) sequence, draft := state, log })
      ([⟨.send (announced crates .left "message" sequence), Except.ok ()⟩,
        ⟨.send (carried crates .left (sequence + 1) message), Except.ok ()⟩] ++
        [⟨.receive, Except.ok (announced crates .right "message" (sequence + 1 + 1))⟩,
          ⟨.receive, Except.ok (carried crates .right (sequence + 1 + 1 + 1) answer)⟩])
      ((clientLoop client transport left (round + 1) (received + 1)).start
        { machine := machine crates .left (turn .left) (sequence + 1 + 1 + 1 + 1)
          draft := client.receiveSyncMessage answer next
          log :=
            { generated := log.generated ++ [message]
              received := log.received ++ [answer] } }) := by
  apply path_bind (path_generate generates)
  apply path_bind (path_message .left sequence message next _)
  apply path_bind
    (path_announced .right (sequence + 1 + 1) next _ (next_announcement .right))
  exact path_bind (path_carried client .right (sequence + 1 + 1 + 1) answer next _) (.refl _)

/-- The client has a message, and hears that the server has none. -/
theorem path_client_idled (generates : client.generateSyncMessage state = (some message, next)) :
    Path ((clientLoop client transport (left + 1) round received).start
        { machine := machine crates .left (turn .left) sequence, draft := state, log })
      ([⟨.send (announced crates .left "message" sequence), Except.ok ()⟩,
        ⟨.send (carried crates .left (sequence + 1) message), Except.ok ()⟩] ++
        [⟨.receive, Except.ok (announced crates .right "idle" (sequence + 1 + 1))⟩])
      ((clientLoop client transport left (round + 1) received).start
        { machine := machine crates .left (turn .left) (sequence + 1 + 1 + 1)
          draft := next
          log := { log with generated := log.generated ++ [message] } }) := by
  apply path_bind (path_generate generates)
  apply path_bind (path_message .left sequence message next _)
  exact path_bind (path_announced .right (sequence + 1 + 1) next _ next_idle) (.refl _)

/-- The client has no message left and says so. -/
theorem path_client_done (generates : client.generateSyncMessage state = (none, next)) :
    Path ((clientLoop client transport (left + 1) round received).start
        { machine := machine crates .left (turn .left) sequence, draft := state, log })
      [⟨.send (announced crates .left "done" sequence), Except.ok ()⟩,
        ⟨.finish (role .left), Except.ok ()⟩]
      (.done (.ok (reported crates .left transport client next (sequence + 1) round received),
        { machine := machine crates .left "end" (sequence + 1), draft := next, log })) := by
  apply path_bind (path_generate_none generates)
  apply path_bind (path_announce .left sequence next log next_done)
  exact path_bind (path_send _)
    (path_report .left transport client next log (sequence + 1) round received)

/-- The server takes a message and answers it. -/
theorem path_server_answers (generates : server.generateSyncMessage
      (server.receiveSyncMessage message peer) = (some answer, after)) :
    Path ((serverLoop server transport (left + 1) sent received).start
        { machine := machine crates .right (turn .left) sequence, draft := peer, log })
      [⟨.receive, Except.ok (announced crates .left "message" sequence)⟩,
        ⟨.receive, Except.ok (carried crates .left (sequence + 1) message)⟩,
        ⟨.send (announced crates .right "message" (sequence + 1 + 1)), Except.ok ()⟩,
        ⟨.send (carried crates .right (sequence + 1 + 1 + 1) answer), Except.ok ()⟩]
      ((serverLoop server transport left (sent + 1) (received + 1)).start
        { machine := machine crates .right (turn .left) (sequence + 1 + 1 + 1 + 1)
          draft := after
          log :=
            { generated := log.generated ++ [answer]
              received := log.received ++ [message] } }) := by
  apply path_bind (path_announced .left sequence peer log (next_announcement .left))
  apply path_bind (path_carried server .left (sequence + 1) message peer log)
  apply path_bind (path_generate generates)
  exact path_bind (path_message .right (sequence + 1 + 1) answer after _) (.refl _)

/-- The server takes a message and has none itself. -/
theorem path_server_idles (generates : server.generateSyncMessage
      (server.receiveSyncMessage message peer) = (none, after)) :
    Path ((serverLoop server transport (left + 1) sent received).start
        { machine := machine crates .right (turn .left) sequence, draft := peer, log })
      [⟨.receive, Except.ok (announced crates .left "message" sequence)⟩,
        ⟨.receive, Except.ok (carried crates .left (sequence + 1) message)⟩,
        ⟨.send (announced crates .right "idle" (sequence + 1 + 1)), Except.ok ()⟩]
      ((serverLoop server transport left sent (received + 1)).start
        { machine := machine crates .right (turn .left) (sequence + 1 + 1 + 1)
          draft := after
          log := { log with received := log.received ++ [message] } }) := by
  apply path_bind (path_announced .left sequence peer log (next_announcement .left))
  apply path_bind (path_carried server .left (sequence + 1) message peer log)
  apply path_bind (path_generate_none generates)
  apply path_bind (path_announce .right (sequence + 1 + 1) after _ next_idle)
  exact path_bind (path_send _) (.refl _)

/-- The server hears that the client is done. -/
theorem path_server_done :
    Path ((serverLoop server transport (left + 1) sent received).start
        { machine := machine crates .right (turn .left) sequence, draft := peer, log })
      [⟨.receive, Except.ok (announced crates .left "done" sequence)⟩,
        ⟨.finish (role .right), Except.ok ()⟩]
      (.done (.ok (reported crates .right transport server peer (sequence + 1) sent received),
        { machine := machine crates .right "end" (sequence + 1), draft := peer, log })) := by
  apply path_bind (path_announced .left sequence peer log next_done)
  exact path_report .right transport server peer log (sequence + 1) sent received

end Rounds

/-! ## Channels -/

section Commutes

variable {channels first second : Channels} {side : Side} {sent : WireEnvelope}
  {rest : List WireEnvelope}

theorem push_comm (channels : Channels) (side : Side) (one two : WireEnvelope) :
    (channels.push side one).push side.other two =
      (channels.push side.other two).push side one := by
  have distinct := side.other_ne
  simp only [Channels.push, Function.update_of_ne distinct, Function.update_of_ne distinct.symm]
  rw [Function.update_comm distinct]

/-- A channel may take a further envelope before or after its head is received. -/
theorem received_push {head : WireEnvelope} (queued : channels.queue side = head :: rest) :
    Channels.Answers (channels.push side sent) side .receive (Except.ok head)
      (Channels.push ⟨Function.update channels.queue side rest⟩ side sent) := by
  have longer : (channels.push side sent).queue side = head :: (rest ++ [sent]) := by
    simp [Channels.push, queued]
  have same : Channels.push ⟨Function.update channels.queue side rest⟩ side sent =
      ⟨Function.update (channels.push side sent).queue side (rest ++ [sent])⟩ := by
    simp [Channels.push]
  rw [same]
  exact .received longer

/-- What the two roles do at their own ends of the channels does not depend on the order. -/
theorem commute {op otherOp : TransportOp} {answer : op.Answer} {otherAnswer : otherOp.Answer}
    (answered : Channels.Answers channels side op answer first)
    (otherAnswered : Channels.Answers channels side.other otherOp otherAnswer second) :
    ∃ after, Channels.Answers first side.other otherOp otherAnswer after ∧
      Channels.Answers second side op answer after := by
  cases answered with
  | sent one =>
      cases otherAnswered with
      | sent two =>
          refine ⟨_, .sent _ _ two, ?_⟩
          rw [push_comm]
          exact .sent _ _ one
      | received queued => exact ⟨_, received_push queued, .sent _ _ one⟩
      | finished => exact ⟨_, .finished _ _ _, .sent _ _ one⟩
      | aborted => exact ⟨_, .aborted _ _, .sent _ _ one⟩
  | @received head rest queued =>
      cases otherAnswered with
      | sent two =>
          rw [Side.other_other]
          refine ⟨_, ?_, received_push queued⟩
          have sent := Channels.Answers.sent
            ⟨Function.update channels.queue side rest⟩ side.other two
          rw [Side.other_other] at sent
          exact sent
      | @received otherHead otherRest otherQueued =>
          have distinct := side.other_ne
          refine ⟨⟨Function.update (Function.update channels.queue side rest) side.other
            otherRest⟩, .received ?_, ?_⟩
          · simpa [distinct] using otherQueued
          · rw [Function.update_comm distinct.symm]
            refine .received ?_
            simpa [distinct.symm] using queued
      | finished => exact ⟨_, .finished _ _ _, .received queued⟩
      | aborted => exact ⟨_, .aborted _ _, .received queued⟩
  | finished => exact ⟨_, otherAnswered, .finished _ _ _⟩
  | aborted => exact ⟨_, otherAnswered, .aborted _ _⟩

theorem commutes : Program.Commutes (ε := Channels) Channels.Answers where
  deterministic := by
    intro before first second party op left right leftAnswered rightAnswered
    cases leftAnswered with
    | received queued =>
        cases rightAnswered with
        | received otherQueued =>
            cases queued.symm.trans otherQueued
            exact ⟨rfl, rfl⟩
    | _ =>
        cases rightAnswered
        exact ⟨rfl, rfl⟩
  commute := by
    intro before first second party other op otherOp answer otherAnswer distinct
    rw [Side.eq_other_of_ne distinct.symm]
    exact commute

end Commutes

section Answers

variable {left right : List WireEnvelope} {sent : WireEnvelope}

theorem answers_send_left : Channels.Answers ⟨Side.pair left right⟩ .left (.send sent)
    (Except.ok ()) ⟨Side.pair left (right ++ [sent])⟩ := by
  have pushed : Channels.push ⟨Side.pair left right⟩ .right sent =
      ⟨Side.pair left (right ++ [sent])⟩ := by
    simp [Channels.push]
  rw [← pushed]
  exact .sent _ .left sent

theorem answers_send_right : Channels.Answers ⟨Side.pair left right⟩ .right (.send sent)
    (Except.ok ()) ⟨Side.pair (left ++ [sent]) right⟩ := by
  have pushed : Channels.push ⟨Side.pair left right⟩ .left sent =
      ⟨Side.pair (left ++ [sent]) right⟩ := by
    simp [Channels.push]
  rw [← pushed]
  exact .sent _ .right sent

theorem answers_receive_left : Channels.Answers ⟨Side.pair (sent :: left) right⟩ .left .receive
    (Except.ok sent) ⟨Side.pair left right⟩ := by
  rw [← Side.update_pair_left (sent :: left) right left]
  exact .received rfl

theorem answers_receive_right : Channels.Answers ⟨Side.pair left (sent :: right)⟩ .right .receive
    (Except.ok sent) ⟨Side.pair left right⟩ := by
  rw [← Side.update_pair_right left (sent :: right) right]
  exact .received rfl

end Answers

/-! ## Rounds -/

end DraftSync

/-- What two drafts have told each other, and where that has led them. -/
structure Meeting (σ τ : Type) where
  client : σ
  server : τ
  fromClient : List (List UInt8) := []
  fromServer : List (List UInt8) := []

namespace Meeting

variable {σ τ : Type} (client : Draft σ) (server : Draft τ)

/-- The client has a message for the server, which may have one in return. -/
def round (meeting : Meeting σ τ) : Option (Meeting σ τ) :=
  match client.generateSyncMessage meeting.client with
  | (none, _) => none
  | (some message, next) =>
    match server.generateSyncMessage (server.receiveSyncMessage message meeting.server) with
    | (none, after) => some
      { client := next
        server := after
        fromClient := meeting.fromClient ++ [message]
        fromServer := meeting.fromServer }
    | (some answer, after) => some
      { client := client.receiveSyncMessage answer next
        server := after
        fromClient := meeting.fromClient ++ [message]
        fromServer := meeting.fromServer ++ [answer] }

/-- So many rounds, if the client has a message in each of them. -/
def rounds : ℕ → Meeting σ τ → Option (Meeting σ τ)
  | 0, meeting => some meeting
  | count + 1, meeting => (meeting.round client server).bind (rounds count)

variable {client server}

theorem length_fromClient_of_round {meeting after : Meeting σ τ}
    (round : meeting.round client server = some after) :
    after.fromClient.length = meeting.fromClient.length + 1 := by
  unfold Meeting.round at round
  split at round
  · simp at round
  · split at round <;>
    · rw [← Option.some.inj round]
      exact List.length_append ..

theorem length_fromClient_of_rounds {count : ℕ} {meeting after : Meeting σ τ}
    (rounds : meeting.rounds client server count = some after) :
    after.fromClient.length = meeting.fromClient.length + count := by
  induction count generalizing meeting with
  | zero => rw [← Option.some.inj rounds, Nat.add_zero]
  | succ count ih =>
      rcases Option.bind_eq_some_iff.mp rounds with ⟨next, round, rest⟩
      rw [ih rest, length_fromClient_of_round round]
      omega

end Meeting

namespace DraftSync

open Exchanging
open Program (steps_left steps_right steps_talk)

variable {crates : Crates} {σ τ : Type} {client : Draft σ} {server : Draft τ}
  {transport : String}

theorem path_result {first last : Program TransportOp TransportOp.Answer
      (Except ExchangeHalt DraftExchangeReport × Exchanger σ)}
    {events : List (Program.Event TransportOp.Answer)} (path : Path first events last) :
    Path (exchangeResult <$> first) events (exchangeResult <$> last) := path.bind_left _

/-- The two roles at the beginning of a round, with nothing in flight. -/
def atRound (crates : Crates) (transport : String) (client : Draft σ) (server : Draft τ)
    (left : ℕ) (meeting : Meeting σ τ) (sequence : UInt64) : ExchangeNetwork where
  environment := { queue := Side.pair [] [] }
  program := Side.pair
    (exchangeResult <$>
      (clientLoop client transport left meeting.fromClient.length meeting.fromServer.length).start
        { machine := machine crates .left (turn .left) sequence
          draft := meeting.client
          log := { generated := meeting.fromClient, received := meeting.fromServer } })
    (exchangeResult <$>
      (serverLoop server transport left meeting.fromServer.length meeting.fromClient.length).start
        { machine := machine crates .right (turn .left) sequence
          draft := meeting.server
          log := { generated := meeting.fromServer, received := meeting.fromClient } })

/-- A round of the meeting is a round of the two roles. -/
theorem steps_round (left : ℕ) {meeting after : Meeting σ τ} (sequence : UInt64)
    (round : meeting.round client server = some after) :
    ∃ next, Relation.ReflTransGen (Program.Step Channels.Answers)
      (atRound crates transport client server (left + 1) meeting sequence)
      (atRound crates transport client server left after next) := by
  rcases generated : client.generateSyncMessage meeting.client with ⟨_ | message, next⟩
  · simp [Meeting.round, generated] at round
  · rcases answered : server.generateSyncMessage
      (server.receiveSyncMessage message meeting.server) with ⟨_ | answer, serverNext⟩
    · simp only [Meeting.round, generated, answered, Option.some.injEq] at round
      subst after
      refine ⟨sequence + 1 + 1 + 1, ?_⟩
      simp only [atRound, List.length_append, List.length_singleton]
      apply steps_talk (path_result (path_client_idled transport left _ _ sequence generated))
        (path_result (path_server_idles transport left _ _ sequence answered))
      · exact .call answers_send_left (.call answers_send_left (.refl _))
      · exact .call answers_receive_right
          (.call answers_receive_right (.call answers_send_right (.refl _)))
      · exact .call answers_receive_left (.refl _)
    · simp only [Meeting.round, generated, answered, Option.some.injEq] at round
      subst after
      refine ⟨sequence + 1 + 1 + 1 + 1, ?_⟩
      simp only [atRound, List.length_append, List.length_singleton]
      apply steps_talk
        (path_result (path_client_answered transport left _ _ sequence answer generated))
        (path_result (path_server_answers transport left _ _ sequence answered))
      · exact .call answers_send_left (.call answers_send_left (.refl _))
      · exact .call answers_receive_right (.call answers_receive_right
          (.call answers_send_right (.call answers_send_right (.refl _))))
      · exact .call answers_receive_left (.call answers_receive_left (.refl _))

/-- The two roles when the client had no message left. -/
def completedNetwork (crates : Crates) (transport : String) (client : Draft σ)
    (server : Draft τ) (meeting : Meeting σ τ) (state : σ) (sequence : UInt64) :
    ExchangeNetwork where
  environment := { queue := Side.pair [] [] }
  program := Side.pair
    (.done (.ok (reported crates .left transport client state sequence meeting.fromClient.length
        meeting.fromServer.length),
      { generated := meeting.fromClient, received := meeting.fromServer }))
    (.done (.ok (reported crates .right transport server meeting.server sequence
        meeting.fromServer.length meeting.fromClient.length),
      { generated := meeting.fromServer, received := meeting.fromClient }))

theorem steps_done (left : ℕ) {meeting : Meeting σ τ} (sequence : UInt64)
    (silent : meeting.round client server = none) :
    ∃ state, Relation.ReflTransGen (Program.Step Channels.Answers)
      (atRound crates transport client server (left + 1) meeting sequence)
      (completedNetwork crates transport client server meeting state (sequence + 1)) := by
  rcases generated : client.generateSyncMessage meeting.client with ⟨_ | message, next⟩
  · refine ⟨next, ?_⟩
    apply (steps_left (path_result (path_client_done transport left _ _ sequence generated))
      (.call answers_send_left (.call (.finished _ _ _) (.refl _)))).trans
    exact steps_right (path_result (path_server_done transport left _ _ sequence))
      (.call answers_receive_right (.call (.finished _ _ _) (.refl _)))
  · rcases answered : server.generateSyncMessage
      (server.receiveSyncMessage message meeting.server) with ⟨_ | answer, serverNext⟩ <;>
    simp [Meeting.round, generated, answered] at silent

/-- Round by round, to the limit or to a round in which the client has no message left. -/
theorem steps_rounds (left : ℕ) (meeting : Meeting σ τ) (sequence : UInt64) :
    (∃ after next, meeting.rounds client server left = some after ∧
      Relation.ReflTransGen (Program.Step Channels.Answers)
        (atRound crates transport client server left meeting sequence)
        (atRound crates transport client server 0 after next)) ∨
    (meeting.rounds client server left = none ∧ ∃ last state next,
      last.fromClient.length < meeting.fromClient.length + left ∧
      Relation.ReflTransGen (Program.Step Channels.Answers)
        (atRound crates transport client server left meeting sequence)
        (completedNetwork crates transport client server last state next)) := by
  induction left generalizing meeting sequence with
  | zero => exact .inl ⟨meeting, sequence, rfl, .refl⟩
  | succ left ih =>
      rcases round : meeting.round client server with _ | after
      · rcases steps_done left sequence round with ⟨state, steps⟩
        right
        refine ⟨by simp [Meeting.rounds, round], meeting, state, sequence + 1, ?_, steps⟩
        omega
      · rcases steps_round left sequence round with ⟨between, first⟩
        have longer := Meeting.length_fromClient_of_round round
        rcases ih after between with ⟨last, next, rounds, steps⟩ |
          ⟨rounds, last, state, next, shorter, steps⟩
        · left
          exact ⟨last, next, by simp [Meeting.rounds, round, rounds], first.trans steps⟩
        · right
          refine ⟨by simp [Meeting.rounds, round, rounds], last, state, next, ?_,
            first.trans steps⟩
          omega

/-- Both roles have completed, and each has received what the other one generated. -/
structure Synchronised (client server : DraftExchangeReport) (clientLog serverLog : DraftLog) :
    Prop where
  completed : client.completed = true ∧ server.completed = true
  clientSent : client.messagesSent = server.messagesReceived
  serverSent : server.messagesSent = client.messagesReceived
  frames_eq : client.frames = server.frames
  serverReceived : serverLog.received = clientLog.generated
  clientReceived : clientLog.received = serverLog.generated
  counted : client.messagesSent = clientLog.generated.length ∧
    server.messagesSent = serverLog.generated.length

/-- The two roles of `draft-sync` end in one of two ways, whatever the schedule: both report the
same completed session, each having received exactly the messages that the other one generated, or
both give up after `maxSyncRounds` rounds. The drafts alone decide which. -/
theorem draft_sync_loses_no_message (crates : Crates) (transport : String)
    (client : Draft σ) (server : Draft τ) (clientState : σ) (serverState : τ) :
    ∃ plan, PreparedPlan.compile crates .draftSync = .ok plan ∧
      ∃ final, (draftExchange plan transport client server clientState serverState).EndsIn
          Channels.Answers final ∧
        ((∃ clientReport serverReport clientLog serverLog,
            final.program .left = .done (.ok clientReport, clientLog) ∧
            final.program .right = .done (.ok serverReport, serverLog) ∧
            Synchronised clientReport serverReport clientLog serverLog ∧
            clientLog.generated.length < maxSyncRounds) ∧
          Meeting.rounds client server maxSyncRounds
            { client := clientState, server := serverState } = none ∨
        (∃ clientLog serverLog,
            final.program .left = .done (.error (.error .tooManyRounds), clientLog) ∧
            final.program .right = .done (.error (.error .tooManyRounds), serverLog) ∧
            clientLog.generated.length = maxSyncRounds) ∧
          (Meeting.rounds client server maxSyncRounds
            { client := clientState, server := serverState }).isSome = true) := by
  refine ⟨Conversation.draftSync.preparedPlan crates,
    Conversation.preparedPlan_compile_eq_ok_iff.mpr ⟨compilable, rfl⟩, ?_⟩
  have start : draftExchange (Conversation.draftSync.preparedPlan crates) transport client server
      clientState serverState = atRound crates transport client server maxSyncRounds
        { client := clientState, server := serverState } 0 := rfl
  rw [start]
  rcases steps_rounds maxSyncRounds { client := clientState, server := serverState } 0 with
    ⟨after, next, rounds, steps⟩ | ⟨rounds, last, state, next, shorter, steps⟩
  · have done : ∀ side, ∃ value,
        (atRound crates transport client server 0 after next).program side = .done value := by
      intro side
      cases side <;> exact ⟨_, rfl⟩
    refine ⟨_, commutes.endsIn steps (Program.Network.stuck_of_done done), .inr ⟨?_, ?_⟩⟩
    · refine ⟨_, _, rfl, rfl, ?_⟩
      simpa using Meeting.length_fromClient_of_rounds rounds
    · rw [rounds]
      rfl
  · have done : ∀ side, ∃ value,
        (completedNetwork crates transport client server last state next).program side =
          .done value := by
      intro side
      cases side <;> exact ⟨_, rfl⟩
    refine ⟨_, commutes.endsIn steps (Program.Network.stuck_of_done done), .inl ⟨?_, rounds⟩⟩
    refine ⟨_, _, _, _, rfl, rfl, ?_, by simpa using shorter⟩
    exact ⟨⟨rfl, rfl⟩, rfl, rfl, rfl, rfl, rfl, rfl, rfl⟩

end DraftSync

end Colloq
