import Colloq.Counting
import Colloq.Extent
import Colloq.MemoryDemo

/-!
# The tokens of the generate workload

The client and the server go through their rounds together: a round carries one
token, and the last one ends with the limit of the server or the cancellation of
the client. One interleaving shows it, and every other one ends where it does.
-/

namespace Colloq

open TurnTaking (Side)

/-! ## The conversation -/

/-- What the states of the conversation that can fail do about it. -/
def transportFailures : StringMap String :=
  {("transport.closed", "transport-failed"), ("transport.reset", "transport-reset"),
    ("transport.timeout", "transport-timeout"), ("transport.uncertain", "transport-uncertain"),
    ("transport.unreachable", "transport-unreachable")}

/-- `examples/generate.colloqconv.json` -/
def Conversation.generate : Conversation where
  schema := some "../spec/colloq-conversation-v0.schema.json"
  colloqConversation := "0.1.0"
  module := { id := "example.generate", semanticVersion := some "0.1.0" }
  roles :=
    [{ id := "client", placement := ["cpu"] },
      { id := "server", placement := ["accelerator"], capabilities := ["model.infer"] }]
  types :=
    [{ id := "prompt"
       definition :=
        {("kind", recordKind),
          ("fields", ⟨.array [.object [("id", .string "text"), ("type", .string "string")]],
            rfl⟩)} },
      { id := "token"
        definition :=
          {("kind", recordKind),
            ("fields", ⟨.array [.object [("id", .string "id"), ("type", .string "u32")]],
              rfl⟩)} }]
  failures :=
    [{ id := "transport.closed"
       description := some "The selected transport closed before the conversation completed." },
      { id := "transport.timeout"
        description :=
          some "A local transport deadline elapsed without evidence of remote progress."
        retryable := true },
      { id := "transport.reset"
        description := some "The peer or network explicitly reset the transport." },
      { id := "transport.unreachable"
        description := some "The remote endpoint could not be reached."
        retryable := true },
      { id := "transport.uncertain"
        description := some "The endpoint cannot determine how far its peer progressed." }]
  initial := "start"
  states :=
    [.send "start" "client" "server" "prompt" "decide" (some "20ms") transportFailures,
      .choice "decide" "server" {("token", "emit-token"), ("done", "end")} transportFailures,
      .send "emit-token" "server" "client" "token" "client-action" none transportFailures,
      .choice "client-action" "client" {("continue", "decide"), ("cancel", "cancel")}
        transportFailures,
      .cancel "cancel" "client" "server" "generation" "end" transportFailures,
      .end "end",
      .fail "transport-failed" "transport.closed",
      .fail "transport-timeout" "transport.timeout",
      .fail "transport-reset" "transport.reset",
      .fail "transport-unreachable" "transport.unreachable",
      .fail "transport-uncertain" "transport.uncertain"]
  annotations :=
    {("title", ⟨.string "Two-role token generation with cancellation", rfl⟩),
      ("status", ⟨.string "executable experiment", rfl⟩)}

namespace Generate

theorem compilable : Conversation.generate.Compilable where
  toWellFormed := (validate_eq_ok_iff _).mp rfl
  module_valid := by decide
  role_valid := by decide
  state_valid := by decide
  transitionCount_le := by decide

theorem sides : Conversation.generate.Sides generateRole := ⟨compilable.toWellFormed, rfl⟩

/-! ## What is said -/

def selection (side : Side) (label : String) : Frame := .select (generateRole side) label

def promptFrame (prompt : String) : Frame :=
  .data "client" "server" "prompt" (some (promptValue prompt))

def tokenFrame (tokenId : UInt64) : Frame :=
  .data "server" "client" "token" (some (tokenValue tokenId))

def cancellation : Frame := .cancel "client" "server" "generation"

/-- A frame that a side utters in a state, and the state that follows. -/
structure Utters (side : Side) (current : String) (action : EndpointMachine.Action)
    (frame : Frame) (next : String) : Prop where
  hasState : Conversation.generate.HasState current
  acts : frame.action = some action
  author : frame.author = some (generateRole side)
  allowed : Conversation.generate.next current frame = some next

theorem hasState_of_mem {current : String}
    (listed : current ∈ ["start", "decide", "emit-token", "client-action", "cancel"]) :
    Conversation.generate.HasState current := by
  simp only [List.mem_cons, List.not_mem_nil, or_false] at listed
  simp only [Conversation.HasState, Conversation.generate, List.map_cons, List.map_nil,
    GlobalState.id]
  rcases listed with rfl | rfl | rfl | rfl | rfl <;> simp

theorem utters_prompt (prompt : String) : Utters .left "start" (.data (promptValue prompt))
    (promptFrame prompt) "decide" := ⟨hasState_of_mem (by simp), rfl, rfl, rfl⟩

theorem utters_token : Utters .right "decide" (.select "token") (selection .right "token")
    "emit-token" := ⟨hasState_of_mem (by simp), rfl, rfl, rfl⟩

theorem utters_done : Utters .right "decide" (.select "done") (selection .right "done") "end" :=
  ⟨hasState_of_mem (by simp), rfl, rfl, rfl⟩

theorem utters_tokenFrame (tokenId : UInt64) : Utters .right "emit-token"
    (.data (tokenValue tokenId)) (tokenFrame tokenId) "client-action" :=
  ⟨hasState_of_mem (by simp), rfl, rfl, rfl⟩

theorem utters_continue : Utters .left "client-action" (.select "continue")
    (selection .left "continue") "decide" := ⟨hasState_of_mem (by simp), rfl, rfl, rfl⟩

theorem utters_cancel : Utters .left "client-action" (.select "cancel")
    (selection .left "cancel") "cancel" := ⟨hasState_of_mem (by simp), rfl, rfl, rfl⟩

theorem utters_cancellation : Utters .left "cancel" .cancel cancellation "end" :=
  ⟨hasState_of_mem (by simp), rfl, rfl, rfl⟩

theorem tokenPayload_tokenFrame (tokenId : UInt64) :
    tokenPayload (tokenFrame tokenId) = .ok tokenId := rfl

theorem promptPayload_promptFrame (prompt : String) :
    promptPayload (promptFrame prompt) = .ok prompt := rfl

/-! ## What a role holds -/

variable {crates : Crates} {side : Side} {current next : String} {action : EndpointMachine.Action}
  {frame : Frame}

/-- A role in a state, after the frames of a trace. -/
def held (crates : Crates) (side : Side) (current : String) (trace : List Frame) : Recorder where
  machine := Conversation.generate.machineAt crates (generateRole side) current
    (UInt64.ofNat trace.length)
  trace := trace

/-- The envelope of the frame that comes after those of a trace. -/
def envelope (crates : Crates) (current : String) (trace : List Frame) (frame : Frame) :
    WireEnvelope :=
  Conversation.generate.seal crates ⟨current, UInt64.ofNat trace.length, frame⟩

variable (crates) in
theorem Utters.exchanged (utters : Utters side current action frame next) (trace : List Frame) :
    (held crates side current trace).machine.perform action =
        some (.ok (envelope crates current trace frame),
          (held crates side next (trace ++ [frame])).machine) ∧
      (held crates side.other current trace).machine.accept
          (envelope crates current trace frame) =
        some (.ok frame, (held crates side.other next (trace ++ [frame])).machine) := by
  have longer : UInt64.ofNat (trace ++ [frame]).length = UInt64.ofNat trace.length + 1 := by
    rw [List.length_append, List.length_singleton, UInt64.ofNat_add]
    rfl
  simp only [held, longer]
  exact sides.exchanged compilable _ utters.hasState utters.acts utters.author utters.allowed

end Generate

/-! ## The paths of a role -/

namespace Recording

open Program (Path)
open Program.Stateful (path_bind path_ask_bind)

variable {α : Type} {recorder : Recorder}

theorem path_inspect {query : EndpointMachine → Option α} {value : α}
    (answered : query recorder.machine = some value) :
    Path ((inspect query).start recorder) [] (.done (.ok value, recorder)) := by
  have inspects : (inspect query).start recorder = .done (.ok value, recorder) := by
    simp [inspect, Program.Stateful.start_bind, answered]
  rw [inspects]
  exact .refl _

theorem path_operate {operation : EndpointMachine → Outcome α} {value : α}
    {machine : EndpointMachine}
    (returned : operation recorder.machine = some (.ok value, machine)) :
    Path ((operate operation).start recorder) []
      (.done (.ok value, { recorder with machine })) := by
  rw [start_operate, returned]
  exact .refl _

theorem path_ofExcept {result : Except RuntimeError α} {value : α} (same : result = .ok value) :
    Path ((ofExcept result).start recorder) [] (.done (.ok value, recorder)) := by
  rw [same]
  exact .refl _

theorem path_sendAndRecord (envelope : WireEnvelope) :
    Path ((sendAndRecord envelope).start recorder) [⟨.send envelope, Except.ok ()⟩]
      (.done (.ok true, { recorder with trace := recorder.trace ++ [envelope.frame] })) :=
  .call (.refl _)

theorem path_receiveAndRecord {envelope : WireEnvelope} {frame : Frame} {machine : EndpointMachine}
    (accepted : recorder.machine.accept envelope = some (.ok frame, machine)) :
    Path (receiveAndRecord.start recorder) [⟨.receive, Except.ok envelope⟩]
      (.done (.ok (some frame), { machine, trace := recorder.trace ++ [frame] })) := by
  apply path_ask_bind
  have accepts : Path ((operate fun machine => machine.accept envelope).start recorder) []
      (.done (.ok frame, { recorder with machine })) := path_operate accepted
  exact path_bind accepts (.refl _)

end Recording

namespace Generate

open Recording
open Program (Path)
open Program.Stateful (path_bind path_bind_done path_bind_left)

variable {crates : Crates} {side : Side} {current next : String} {action : EndpointMachine.Action}
  {frame : Frame} {α : Type} {trace : List Frame}
  {last : Program TransportOp TransportOp.Answer (Except Halt α × Recorder)}
  {events : List (Program.Event TransportOp.Answer)}

/-- A role says what it has emitted. -/
theorem Utters.path_act (utters : Utters side current action frame next)
    {rest : Bool → Recording α}
    (continued : Path ((rest true).start (held crates side next (trace ++ [frame]))) events last) :
    Path ((operate (fun machine => machine.perform action) >>= fun envelope =>
        sendAndRecord envelope >>= rest).start (held crates side current trace))
      (⟨.send (envelope crates current trace frame), Except.ok ()⟩ :: events) last := by
  have performed := (utters.exchanged crates trace).1
  exact path_bind (path_operate performed) (path_bind (path_sendAndRecord _) continued)

/-- The other role hears it. -/
theorem Utters.path_hear (utters : Utters side current action frame next)
    {rest : Option Frame → Recording α}
    (continued : Path ((rest (some frame)).start
      (held crates side.other next (trace ++ [frame]))) events last) :
    Path ((receiveAndRecord >>= rest).start (held crates side.other current trace))
      (⟨.receive, Except.ok (envelope crates current trace frame)⟩ :: events) last :=
  path_bind (path_receiveAndRecord (utters.exchanged crates trace).2) continued

/-- A loop goes on unless the conversation has ended. -/
theorem path_loop {rest : Bool → Recording α} {complete : Bool} {recorder : Recorder}
    (answered : recorder.machine.isComplete = some complete)
    (continued : Path ((rest complete).start recorder) events last) :
    Path ((inspect EndpointMachine.isComplete >>= rest).start recorder) events last :=
  path_bind (path_inspect answered) continued

/-- The report of a role whose conversation has ended. -/
def reported (crates : Crates) (side : Side) (transport : String) (tokens : List UInt64)
    (trace : List Frame) : ExecutionReport where
  role := generateRole side
  transport
  conversation := "example.generate"
  conversationIdentity := conversationIdentityValidated crates .generate
  planIdentity := (held crates side "end" trace).machine.planIdentity
  semanticTraceIdentity := traceIdentity crates trace
  frames := UInt64.ofNat trace.length
  tokens
  completed := true
  successful := true
  failure := none
  finalState := "end"
  semanticTrace := trace

theorem path_conclude (side : Side) (transport : String) (tokens : List UInt64)
    (trace : List Frame) :
    Path ((conclude crates transport tokens).start (held crates side "end" trace))
      [⟨.finish (generateRole side), Except.ok ()⟩]
      (.done (.ok (reported crates side transport tokens trace),
        held crates side "end" trace)) := by
  cases side <;> exact .call (.refl _)

/-! ## One round -/

/-- The traces of a round, by what was said last. -/
def announced (trace : List Frame) : List Frame := trace ++ [selection .right "token"]

def offered (tokenId : UInt64) (trace : List Frame) : List Frame :=
  announced trace ++ [tokenFrame tokenId]

def continued (tokenId : UInt64) (trace : List Frame) : List Frame :=
  offered tokenId trace ++ [selection .left "continue"]

def cancelling (tokenId : UInt64) (trace : List Frame) : List Frame :=
  offered tokenId trace ++ [selection .left "cancel"]

def cancelled (tokenId : UInt64) (trace : List Frame) : List Frame :=
  cancelling tokenId trace ++ [cancellation]

def finished (trace : List Frame) : List Frame := trace ++ [selection .right "done"]

def said (op : WireEnvelope) : Program.Event TransportOp.Answer := ⟨.send op, Except.ok ()⟩

def heard (op : WireEnvelope) : Program.Event TransportOp.Answer := ⟨.receive, Except.ok op⟩

def closed (side : Side) : Program.Event TransportOp.Answer :=
  ⟨.finish (generateRole side), Except.ok ()⟩

section Rounds

variable (crates : Crates) (transport : String) {cancelAfter : Option ℕ} {tokenLimit : ℕ}
  (fuel : ℕ) {tokens : List UInt64} (trace : List Frame)

/-- What is left of a role once its loop has begun. -/
def clientRest (cancelAfter : Option ℕ) (fuel : ℕ) (tokens : List UInt64) (trace : List Frame) :
    Program TransportOp TransportOp.Answer (Except Halt ExecutionReport × Recorder) :=
  (clientLoop cancelAfter fuel tokens >>= conclude crates transport).start
    (held crates .left "decide" trace)

def serverRest (tokenLimit fuel : ℕ) (tokens : List UInt64) (trace : List Frame) :
    Program TransportOp TransportOp.Answer (Except Halt ExecutionReport × Recorder) :=
  (serverLoop tokenLimit fuel tokens >>= conclude crates transport).start
    (held crates .right "decide" trace)

/-- What is left of a role when the conversation has ended. -/
def concluding (side : Side) (tokens : List UInt64) (trace : List Frame) :
    Program TransportOp TransportOp.Answer (Except Halt ExecutionReport × Recorder) :=
  (conclude crates transport tokens).start (held crates side "end" trace)

/-- The loops end when the conversation has ended. -/
theorem path_client_end (cancelAfter : Option ℕ) (tokens : List UInt64) :
    Path ((clientLoop cancelAfter (fuel + 1) tokens).start (held crates .left "end" trace)) []
      (.done (.ok tokens, held crates .left "end" trace)) := .refl _

theorem path_server_end (tokenLimit : ℕ) (tokens : List UInt64) :
    Path ((serverLoop tokenLimit (fuel + 1) tokens).start (held crates .right "end" trace)) []
      (.done (.ok tokens, held crates .right "end" trace)) := .refl _

/-- The client takes a token and wants more. -/
theorem path_client_continue (tokenId : UInt64)
    (goesOn : cancelAfter.any (· ≤ (tokens ++ [tokenId]).length) = false) :
    Path (clientRest crates transport cancelAfter (fuel + 1) tokens trace)
      [heard (envelope crates "decide" trace (selection .right "token")),
        heard (envelope crates "emit-token" (announced trace) (tokenFrame tokenId)),
        said (envelope crates "client-action" (offered tokenId trace)
          (selection .left "continue"))]
      (clientRest crates transport cancelAfter fuel (tokens ++ [tokenId])
        (continued tokenId trace)) := by
  apply path_bind_left
  rw [clientLoop]
  apply path_loop rfl
  apply utters_token.path_hear
  apply (utters_tokenFrame tokenId).path_hear
  apply path_bind (path_ofExcept (tokenPayload_tokenFrame tokenId))
  simp only [goesOn, Bool.false_eq_true, if_false]
  exact utters_continue.path_act (.refl _)

/-- The client takes a token and cancels. -/
theorem path_client_cancel (tokenId : UInt64)
    (stops : cancelAfter.any (· ≤ (tokens ++ [tokenId]).length) = true) :
    Path (clientRest crates transport cancelAfter (fuel + 1 + 1) tokens trace)
      [heard (envelope crates "decide" trace (selection .right "token")),
        heard (envelope crates "emit-token" (announced trace) (tokenFrame tokenId)),
        said (envelope crates "client-action" (offered tokenId trace) (selection .left "cancel")),
        said (envelope crates "cancel" (cancelling tokenId trace) cancellation)]
      (concluding crates transport .left (tokens ++ [tokenId]) (cancelled tokenId trace)) := by
  apply path_bind_done
  rw [clientLoop]
  apply path_loop rfl
  apply utters_token.path_hear
  apply (utters_tokenFrame tokenId).path_hear
  apply path_bind (path_ofExcept (tokenPayload_tokenFrame tokenId))
  simp only [stops, if_true]
  apply utters_cancel.path_act
  apply utters_cancellation.path_act
  exact path_client_end crates fuel _ cancelAfter _

/-- The client hears that the server is done. -/
theorem path_client_done :
    Path (clientRest crates transport cancelAfter (fuel + 1 + 1) tokens trace)
      [heard (envelope crates "decide" trace (selection .right "done"))]
      (concluding crates transport .left tokens (finished trace)) := by
  apply path_bind_done
  rw [clientLoop]
  apply path_loop rfl
  apply utters_done.path_hear
  exact path_client_end crates fuel _ cancelAfter _

/-- The token that the server makes next. -/
def nextToken (tokens : List UInt64) : UInt64 := UInt64.ofNat tokens.length + 1

/-- The server makes a token, and the client wants more. -/
theorem path_server_continue (more : ¬tokenLimit ≤ tokens.length) :
    Path (serverRest crates transport tokenLimit (fuel + 1) tokens trace)
      ([said (envelope crates "decide" trace (selection .right "token")),
        said (envelope crates "emit-token" (announced trace) (tokenFrame (nextToken tokens)))] ++
        [heard (envelope crates "client-action" (offered (nextToken tokens) trace)
          (selection .left "continue"))])
      (serverRest crates transport tokenLimit fuel (tokens ++ [nextToken tokens])
        (continued (nextToken tokens) trace)) := by
  apply path_bind_left
  rw [serverLoop]
  apply path_loop rfl
  simp only [if_neg more]
  apply utters_token.path_act
  apply (utters_tokenFrame _).path_act
  exact utters_continue.path_hear (.refl _)

/-- The server makes a token, and the client cancels. -/
theorem path_server_cancel (more : ¬tokenLimit ≤ tokens.length) :
    Path (serverRest crates transport tokenLimit (fuel + 1 + 1) tokens trace)
      ([said (envelope crates "decide" trace (selection .right "token")),
        said (envelope crates "emit-token" (announced trace) (tokenFrame (nextToken tokens)))] ++
        [heard (envelope crates "client-action" (offered (nextToken tokens) trace)
            (selection .left "cancel")),
          heard (envelope crates "cancel" (cancelling (nextToken tokens) trace) cancellation)])
      (concluding crates transport .right (tokens ++ [nextToken tokens])
        (cancelled (nextToken tokens) trace)) := by
  apply path_bind_done
  rw [serverLoop]
  apply path_loop rfl
  simp only [if_neg more]
  apply utters_token.path_act
  apply (utters_tokenFrame _).path_act
  apply utters_cancel.path_hear
  apply utters_cancellation.path_hear
  exact path_server_end crates fuel _ tokenLimit _

/-- The server has made as many tokens as it may. -/
theorem path_server_done (enough : tokenLimit ≤ tokens.length) :
    Path (serverRest crates transport tokenLimit (fuel + 1 + 1) tokens trace)
      [said (envelope crates "decide" trace (selection .right "done"))]
      (concluding crates transport .right tokens (finished trace)) := by
  apply path_bind_done
  rw [serverLoop]
  apply path_loop rfl
  simp only [if_pos enough]
  apply utters_done.path_act
  exact path_server_end crates fuel _ tokenLimit _

end Rounds

/-! ## Envelopes that arrive -/

section Passes

variable {encoding : WireEncoding}

theorem runs_held (crates : Crates) (side : Side) (current : String) (trace : List Frame) :
    (held crates side current trace).machine.Runs (Conversation.generate.preparedPlan crates) := by
  have hasRole : Conversation.generate.HasRole (generateRole side) :=
    sides.hasRole_iff.mpr ⟨side, rfl⟩
  have created : EndpointMachine.fromPlan (Conversation.generate.preparedPlan crates)
      (generateRole side) = .ok (Conversation.generate.initialMachine crates (generateRole side)) :=
    Conversation.fromPlan_preparedPlan_eq_ok_iff.mpr ⟨hasRole, rfl⟩
  have runs := EndpointMachine.runs_of_fromPlan created
  exact ⟨runs.endpoint_mem, runs.identity_eq⟩

theorem compile (crates : Crates) :
    PreparedPlan.compile crates .generate = .ok (Conversation.generate.preparedPlan crates) :=
  Conversation.preparedPlan_compile_eq_ok_iff.mpr ⟨compilable, rfl⟩

theorem sound (crates : Crates) : (Conversation.generate.preparedPlan crates).Sound :=
  (PreparedPlan.Built.compile (compile crates)).sound

theorem Utters.carries (utters : Utters side current action frame next) (crates : Crates)
    (trace : List Frame) :
    (Conversation.generate.preparedPlan crates).Carries (envelope crates current trace frame) :=
  (sound crates).carries_of_perform (runs_held crates side current trace)
    (utters.exchanged crates trace).1

/-- What is written is read back. -/
theorem Utters.passes_of_encode (utters : Utters side current action frame next)
    (reads : crates.ReadsBack) (plain : action.Plain) {encoded : List UInt8}
    (written : (EnvelopeCodec.forPlan encoding (Conversation.generate.preparedPlan crates)).encode
      crates (envelope crates current trace frame) = .ok encoded) :
    (EnvelopeCodec.forPlan encoding (Conversation.generate.preparedPlan crates)).Passes crates
      (.send (envelope crates current trace frame)) := by
  have read := (utters.carries crates trace).decode_of_plain reads
    (utters.exchanged crates trace).1 plain (sound crates) written
  exact ⟨encoded, written, read⟩

theorem Utters.passes (utters : Utters side current action frame next)
    (reads : crates.ReadsBack) (concise : crates.Concise) (plain : action.Plain)
    (short : current.length + frame.toJson.extent ≤ 1000) :
    (EnvelopeCodec.forPlan encoding (Conversation.generate.preparedPlan crates)).Passes crates
      (.send (envelope crates current trace frame)) := by
  have extent := WireEnvelope.extent_toJson (envelope crates current trace frame)
  have version : (envelope crates current trace frame).colloqWire = "0.1.0" := rfl
  have named : (envelope crates current trace frame).conversation = "example.generate" := rfl
  have lengths : "0.1.0".length = 5 ∧ "example.generate".length = 16 := ⟨rfl, rfl⟩
  have digest : (envelope crates current trace frame).conversationIdentity.length = 71 :=
    length_sha256Identity _ _
  have state : (envelope crates current trace frame).state = current := rfl
  have carried : (envelope crates current trace frame).frame = frame := rfl
  rw [version, named, lengths.1, lengths.2, digest, state, carried] at extent
  rcases (utters.carries crates trace).exists_encode concise (by omega) encoding with
    ⟨encoded, written⟩
  exact utters.passes_of_encode reads plain written

theorem extent_tokenFrame (tokenId : UInt64) :
    "emit-token".length + (tokenFrame tokenId).toJson.extent ≤ 1000 := by
  have same : (tokenFrame tokenId).toJson.extent = 67 := rfl
  rw [same]
  decide

end Passes

/-! ## The two roles together -/

section Steps

variable {codec : EnvelopeCodec}

/-- The server speaks, the client goes through its whole part, and the server hears it. -/
theorem steps_talk {before spoken between after : Channels}
    {client clientLast server serverLast :
      Program TransportOp TransportOp.Answer (Except Halt ExecutionReport × Recorder)}
    {speech talk hearing : List (Program.Event TransportOp.Answer)}
    (path : Path server (speech ++ hearing) serverLast) (peerPath : Path client talk clientLast)
    (speaks : Program.Answered (Channels.Talks crates codec) Side.right before speech spoken)
    (talks : Program.Answered (Channels.Talks crates codec) Side.left spoken talk between)
    (hears : Program.Answered (Channels.Talks crates codec) Side.right between hearing after) :
    Relation.ReflTransGen (Program.Step (Channels.Talks crates codec))
      { environment := before, program := Side.pair (Prod.fst <$> client) (Prod.fst <$> server) }
      { environment := after
        program := Side.pair (Prod.fst <$> clientLast) (Prod.fst <$> serverLast) } := by
  let network : RoleNetwork :=
    { environment := before, program := Side.pair (Prod.fst <$> client) (Prod.fst <$> server) }
  have steps := @Program.steps_of_talk _ _ _ _ _ _ (Channels.Talks crates codec) network .right
    .left (by simp) _ _ _ _ _ _ _ _ (path.bind_left _) (peerPath.bind_left _) speaks talks hears
  rw [Side.update_pair_right, Side.update_pair_left] at steps
  exact steps

end Steps

section Network

variable (crates : Crates) (transport : String) {cancelAfter : Option ℕ} {tokenLimit : ℕ}
  (fuel : ℕ) {tokens : List UInt64} (trace : List Frame) {encoding : WireEncoding}

/-- Channels between which only the generate envelopes of one encoding may pass. -/
abbrev GenerateStep (encoding : WireEncoding) : RoleNetwork → RoleNetwork → Prop :=
  Program.Step (Channels.Delivers crates
    (EnvelopeCodec.forPlan encoding (Conversation.generate.preparedPlan crates)))

/-- The same, as long as no role finishes. -/
abbrev GenerateTalk (encoding : WireEncoding) : RoleNetwork → RoleNetwork → Prop :=
  Program.Step (Channels.Talks crates
    (EnvelopeCodec.forPlan encoding (Conversation.generate.preparedPlan crates)))

/-- The two roles at the beginning of a round, with nothing on its way. -/
def atRound (cancelAfter : Option ℕ) (tokenLimit fuel : ℕ) (tokens : List UInt64)
    (trace : List Frame) : RoleNetwork where
  environment := { queue := Side.pair [] [] }
  program := Side.pair (Prod.fst <$> clientRest crates transport cancelAfter fuel tokens trace)
    (Prod.fst <$> serverRest crates transport tokenLimit fuel tokens trace)

/-- The two roles when the conversation has ended, before they finish their transports. -/
def atClose (tokens : List UInt64) (trace : List Frame) : RoleNetwork where
  environment := { queue := Side.pair [] [] }
  program := Side.pair (Prod.fst <$> concluding crates transport .left tokens trace)
    (Prod.fst <$> concluding crates transport .right tokens trace)

/-- The two roles when they have returned. -/
def ended (tokens : List UInt64) (trace : List Frame) : RoleNetwork where
  environment := { queue := Side.pair [] [] }
  program := Side.pair (.done (.ok (reported crates .left transport tokens trace)))
    (.done (.ok (reported crates .right transport tokens trace)))

theorem steps_close (tokens : List UInt64) :
    Relation.ReflTransGen (GenerateStep crates encoding) (atClose crates transport tokens trace)
      (ended crates transport tokens trace) := by
  have left := (@path_conclude crates .left transport tokens trace).bind_left
    fun result => Program.done result.1
  have right := (@path_conclude crates .right transport tokens trace).bind_left
    fun result => Program.done result.1
  apply (Program.steps_left left (.call ⟨.finished _ _ _, trivial⟩ (.refl _))).trans
  exact Program.steps_right right (.call ⟨.finished _ _ _, trivial⟩ (.refl _))

variable {crates} (reads : crates.ReadsBack) (concise : crates.Concise)

include reads concise

theorem steps_done (enough : tokenLimit ≤ tokens.length) :
    Relation.ReflTransGen (GenerateTalk crates encoding)
      (atRound crates transport cancelAfter tokenLimit (fuel + 1 + 1) tokens trace)
      (atClose crates transport tokens (finished trace)) := by
  have path := path_server_done crates transport fuel trace enough
  rw [← List.append_nil [said _]] at path
  apply steps_talk path (path_client_done crates transport fuel trace)
  · refine .call (Channels.talks_send DraftSync.answers_send_right ?_) (.refl _)
    exact utters_done.passes reads concise (by simp) (by decide)
  · exact .call (Channels.talks_receive DraftSync.answers_receive_left) (.refl _)
  · exact .refl _

/-- After as many tokens as it asks for, the client cancels, and both roles close. -/
theorem steps_cancel (more : ¬tokenLimit ≤ tokens.length)
    (stops : cancelAfter.any (· ≤ (tokens ++ [nextToken tokens]).length) = true) :
    Relation.ReflTransGen (GenerateTalk crates encoding)
      (atRound crates transport cancelAfter tokenLimit (fuel + 1 + 1) tokens trace)
      (atClose crates transport (tokens ++ [nextToken tokens])
        (cancelled (nextToken tokens) trace)) := by
  apply steps_talk (path_server_cancel crates transport fuel trace more)
    (path_client_cancel crates transport fuel trace (nextToken tokens) stops)
  · refine .call (Channels.talks_send DraftSync.answers_send_right ?_)
      (.call (Channels.talks_send DraftSync.answers_send_right ?_) (.refl _))
    · exact utters_token.passes reads concise (by simp) (by decide)
    · exact (utters_tokenFrame _).passes reads concise (plain_tokenValue _)
        (extent_tokenFrame _)
  · refine .call (Channels.talks_receive DraftSync.answers_receive_left)
      (.call (Channels.talks_receive DraftSync.answers_receive_left)
        (.call (Channels.talks_send DraftSync.answers_send_left ?_)
          (.call (Channels.talks_send DraftSync.answers_send_left ?_) (.refl _))))
    · exact utters_cancel.passes reads concise (by simp) (by decide)
    · exact utters_cancellation.passes reads concise (by simp) (by decide)
  · exact .call (Channels.talks_receive DraftSync.answers_receive_right)
      (.call (Channels.talks_receive DraftSync.answers_receive_right) (.refl _))

theorem steps_continue (more : ¬tokenLimit ≤ tokens.length)
    (goesOn : cancelAfter.any (· ≤ (tokens ++ [nextToken tokens]).length) = false) :
    Relation.ReflTransGen (GenerateTalk crates encoding)
      (atRound crates transport cancelAfter tokenLimit (fuel + 1) tokens trace)
      (atRound crates transport cancelAfter tokenLimit fuel (tokens ++ [nextToken tokens])
        (continued (nextToken tokens) trace)) := by
  apply steps_talk (path_server_continue crates transport fuel trace more)
    (path_client_continue crates transport fuel trace (nextToken tokens) goesOn)
  · refine .call (Channels.talks_send DraftSync.answers_send_right ?_)
      (.call (Channels.talks_send DraftSync.answers_send_right ?_) (.refl _))
    · exact utters_token.passes reads concise (by simp) (by decide)
    · exact (utters_tokenFrame _).passes reads concise (plain_tokenValue _)
        (extent_tokenFrame _)
  · refine .call (Channels.talks_receive DraftSync.answers_receive_left)
      (.call (Channels.talks_receive DraftSync.answers_receive_left)
        (.call (Channels.talks_send DraftSync.answers_send_left ?_) (.refl _)))
    exact utters_continue.passes reads concise (by simp) (by decide)
  · exact .call (Channels.talks_receive DraftSync.answers_receive_right) (.refl _)

end Network

/-! ## All rounds -/

/-- The tokens `1, 2, ..., count`. -/
def tokenIds (count : ℕ) : List UInt64 :=
  (List.range count).map fun index => UInt64.ofNat (index + 1)

theorem length_tokenIds (count : ℕ) : (tokenIds count).length = count := by simp [tokenIds]

theorem tokenIds_succ (count : ℕ) :
    tokenIds (count + 1) = tokenIds count ++ [nextToken (tokenIds count)] := by
  rw [tokenIds, List.range_succ, List.map_append, nextToken, length_tokenIds, ← tokenIds,
    List.map_singleton, UInt64.ofNat_add]
  rfl

/-- How many tokens a limit and a cancellation leave. -/
def delivered (tokenLimit : ℕ) (cancelAfter : Option ℕ) : ℕ :=
  match cancelAfter with
  | none => tokenLimit
  | some limit => min tokenLimit limit

theorem delivered_of_uncancelled {cancelAfter : Option ℕ} {tokenLimit : ℕ}
    (uncancelled : ∀ limit, cancelAfter = some limit → tokenLimit < limit) :
    delivered tokenLimit cancelAfter = tokenLimit := by
  cases cancelAfter with
  | none => rfl
  | some limit => exact Nat.min_eq_left (uncancelled limit rfl).le

theorem delivered_of_cancelled {cancelAfter : Option ℕ} {tokenLimit count : ℕ}
    (more : count < tokenLimit) (uncancelled : ∀ limit, cancelAfter = some limit → count < limit)
    (stops : cancelAfter.any (· ≤ count + 1) = true) :
    delivered tokenLimit cancelAfter = count + 1 := by
  cases cancelAfter with
  | none => simp at stops
  | some limit =>
      have below := uncancelled limit rfl
      simp only [Option.any_some, decide_eq_true_eq] at stops
      simp only [delivered]
      omega

/-- From a round on, the roles go on until the conversation has ended, with the same trace on every
transport and in either encoding. -/
theorem talks_rounds {crates : Crates} (reads : crates.ReadsBack) (concise : crates.Concise)
    {cancelAfter : Option ℕ} {tokenLimit left count fuel : ℕ} {trace : List Frame}
    (remaining : tokenLimit = count + left)
    (uncancelled : ∀ limit, cancelAfter = some limit → count < limit) (enough : left + 2 ≤ fuel)
    (length : trace.length = 3 * count + 1) :
    ∃ last, last.length = 3 * delivered tokenLimit cancelAfter + 2 ∧
      ∀ transport encoding, Relation.ReflTransGen (GenerateTalk crates encoding)
        (atRound crates transport cancelAfter tokenLimit fuel (tokenIds count) trace)
        (atClose crates transport (tokenIds (delivered tokenLimit cancelAfter)) last) := by
  induction left generalizing count fuel trace with
  | zero =>
      rcases Nat.exists_eq_add_of_le' enough with ⟨fuel, rfl⟩
      have all : delivered tokenLimit cancelAfter = count := by
        rw [remaining]
        exact delivered_of_uncancelled uncancelled
      refine ⟨finished trace, ?_, ?_⟩
      · rw [all, finished, List.length_append, length]
        rfl
      · intro transport encoding
        rw [all]
        apply steps_done transport fuel trace reads concise
        rw [length_tokenIds]
        omega
  | succ left ih =>
      have more : ¬tokenLimit ≤ (tokenIds count).length := by
        rw [length_tokenIds]
        omega
      cases stops : cancelAfter.any (· ≤ (tokenIds (count + 1)).length) with
      | true =>
          rcases Nat.exists_eq_add_of_le' (show 2 ≤ fuel by omega) with ⟨fuel, rfl⟩
          have all : delivered tokenLimit cancelAfter = count + 1 := by
            rw [length_tokenIds] at stops
            exact delivered_of_cancelled (by omega) uncancelled stops
          refine ⟨cancelled (nextToken (tokenIds count)) trace, ?_, ?_⟩
          · rw [all]
            simp only [cancelled, cancelling, offered, announced, List.length_append, length,
              List.length_singleton]
            omega
          · intro transport encoding
            rw [all, tokenIds_succ]
            rw [tokenIds_succ] at stops
            exact steps_cancel transport fuel trace reads concise more stops
      | false =>
          rcases Nat.exists_eq_add_of_le' (show 1 ≤ fuel by omega) with ⟨fuel, rfl⟩
          have later : ∀ limit, cancelAfter = some limit → count + 1 < limit := by
            intro limit same
            rw [same, Option.any_some, length_tokenIds, decide_eq_false_iff_not] at stops
            omega
          have longer : (continued (nextToken (tokenIds count)) trace).length =
              3 * (count + 1) + 1 := by
            simp only [continued, offered, announced, List.length_append, length,
              List.length_singleton]
            omega
          rcases @ih (count + 1) fuel (continued (nextToken (tokenIds count)) trace) (by omega)
            later (by omega) longer with ⟨last, lastLength, steps⟩
          refine ⟨last, lastLength, ?_⟩
          intro transport encoding
          refine .trans ?_ (steps transport encoding)
          rw [tokenIds_succ] at stops ⊢
          exact steps_continue transport fuel trace reads concise more stops

/-- From a round on, the roles go on to their end. -/
theorem steps_rounds {crates : Crates} (reads : crates.ReadsBack) (concise : crates.Concise)
    (transport : String) {cancelAfter : Option ℕ} {tokenLimit : ℕ} {encoding : WireEncoding}
    {left count fuel : ℕ} {trace : List Frame} (remaining : tokenLimit = count + left)
    (uncancelled : ∀ limit, cancelAfter = some limit → count < limit) (enough : left + 2 ≤ fuel)
    (length : trace.length = 3 * count + 1) :
    ∃ last, last.length = 3 * delivered tokenLimit cancelAfter + 2 ∧
      Relation.ReflTransGen (GenerateStep crates encoding)
        (atRound crates transport cancelAfter tokenLimit fuel (tokenIds count) trace)
        (ended crates transport (tokenIds (delivered tokenLimit cancelAfter)) last) := by
  rcases talks_rounds reads concise remaining uncancelled enough length with
    ⟨last, lastLength, talks⟩
  exact ⟨last, lastLength, (Channels.steps_of_talks (talks transport encoding)).trans
    (steps_close crates transport last _)⟩

/-! ## The prompt -/

def promptEnvelope (crates : Crates) (prompt : String) : WireEnvelope :=
  envelope crates "start" [] (promptFrame prompt)

/-- The two roles before they have said anything. -/
def atStart (crates : Crates) (transport prompt : String) (cancelAfter : Option ℕ)
    (tokenLimit fuel : ℕ) : RoleNetwork where
  environment := { queue := Side.pair [] [] }
  program := Side.pair
    (Prod.fst <$> (clientBody crates transport prompt cancelAfter fuel).start
      (held crates .left "start" []))
    (Prod.fst <$> (serverBody crates transport tokenLimit fuel).start
      (held crates .right "start" []))

theorem path_client_prompt (crates : Crates) (transport prompt : String)
    (cancelAfter : Option ℕ) (fuel : ℕ) :
    Path ((clientBody crates transport prompt cancelAfter fuel).start
        (held crates .left "start" []))
      [said (promptEnvelope crates prompt)]
      (clientRest crates transport cancelAfter fuel [] [promptFrame prompt]) :=
  (utters_prompt prompt).path_act (.refl _)

theorem path_server_prompt (crates : Crates) (transport prompt : String) (tokenLimit fuel : ℕ) :
    Path ((serverBody crates transport tokenLimit fuel).start (held crates .right "start" []))
      [heard (promptEnvelope crates prompt)]
      (serverRest crates transport tokenLimit fuel [] [promptFrame prompt]) := by
  apply (utters_prompt prompt).path_hear
  exact path_bind (path_ofExcept (promptPayload_promptFrame prompt)) (.refl _)

theorem talks_prompt {crates : Crates} (reads : crates.ReadsBack) (transport prompt : String)
    (cancelAfter : Option ℕ) (tokenLimit fuel : ℕ) {encoding : WireEncoding}
    {encoded : List UInt8}
    (written : (EnvelopeCodec.forPlan encoding (Conversation.generate.preparedPlan crates)).encode
      crates (promptEnvelope crates prompt) = .ok encoded) :
    Relation.ReflTransGen (GenerateTalk crates encoding)
      (atStart crates transport prompt cancelAfter tokenLimit fuel)
      (atRound crates transport cancelAfter tokenLimit fuel [] [promptFrame prompt]) := by
  have path := path_server_prompt crates transport prompt tokenLimit fuel
  rw [← List.nil_append [heard _]] at path
  apply steps_talk path (path_client_prompt crates transport prompt cancelAfter fuel)
  · exact .refl _
  · refine .call (Channels.talks_send DraftSync.answers_send_left ?_) (.refl _)
    exact (utters_prompt prompt).passes_of_encode reads (plain_promptValue prompt) written
  · exact .call (Channels.talks_receive DraftSync.answers_receive_right) (.refl _)

theorem steps_prompt {crates : Crates} (reads : crates.ReadsBack) (transport prompt : String)
    (cancelAfter : Option ℕ) (tokenLimit fuel : ℕ) {encoding : WireEncoding}
    {encoded : List UInt8}
    (written : (EnvelopeCodec.forPlan encoding (Conversation.generate.preparedPlan crates)).encode
      crates (promptEnvelope crates prompt) = .ok encoded) :
    Relation.ReflTransGen (GenerateStep crates encoding)
      (atStart crates transport prompt cancelAfter tokenLimit fuel)
      (atRound crates transport cancelAfter tokenLimit fuel [] [promptFrame prompt]) :=
  Channels.steps_of_talks
    (talks_prompt reads transport prompt cancelAfter tokenLimit fuel written)

/-! ## The demo -/

/-- Both roles have ended successfully, in step, and with so many tokens. -/
structure TokensDelivered (count : ℕ) (report : DemoReport) : Prop where
  completed : report.client.completed = true ∧ report.server.completed = true
  successful : report.client.successful = true ∧ report.server.successful = true
  ended : report.client.finalState = "end" ∧ report.server.finalState = "end"
  trace_eq : report.client.semanticTrace = report.server.semanticTrace
  tokens_eq : report.client.tokens = tokenIds count ∧ report.server.tokens = tokenIds count
  frames_eq : report.client.frames = UInt64.ofNat (3 * count + 2) ∧
    report.server.frames = UInt64.ofNat (3 * count + 2)
  equivalent : report.semanticTraceEquivalent = true ∧ report.outcomeEquivalent = true

theorem tokensDelivered {crates : Crates} {transport transportPlan : String} {count : ℕ}
    {trace : List Frame} (length : trace.length = 3 * count + 2) :
    TokensDelivered count (demoReport transportPlan
      (reported crates .left transport (tokenIds count) trace)
      (reported crates .right transport (tokenIds count) trace)) where
  completed := ⟨rfl, rfl⟩
  successful := ⟨rfl, rfl⟩
  ended := ⟨rfl, rfl⟩
  trace_eq := rfl
  tokens_eq := ⟨rfl, rfl⟩
  frames_eq := by
    rw [← length]
    exact ⟨rfl, rfl⟩
  equivalent := by
    refine ⟨?_, rfl⟩
    simp [demoReport, reported]

theorem roles_eq {crates : Crates} {transport prompt : String} {tokenLimit fuel : ℕ}
    {cancelAfter : Option ℕ} (positive : cancelAfter ≠ some 0) :
    Side.pair
        (runGenerateClientPlan crates (Conversation.generate.preparedPlan crates) transport prompt
          cancelAfter fuel)
        (runGenerateServerPlan crates (Conversation.generate.preparedPlan crates) transport
          tokenLimit fuel) =
      (atStart crates transport prompt cancelAfter tokenLimit fuel).program := by
  have created : ∀ side, EndpointMachine.fromPlan (Conversation.generate.preparedPlan crates)
      (generateRole side) = .ok (held crates side "start" []).machine := by
    intro side
    exact Conversation.fromPlan_preparedPlan_eq_ok_iff.mpr ⟨sides.hasRole_iff.mpr ⟨side, rfl⟩, rfl⟩
  have client := created .left
  have server := created .right
  simp only [generateRole] at client server
  simp only [runGenerateClientPlan, runGenerateServerPlan, if_neg positive, runRole, client, server]
  rfl

theorem threads_eq {crates : Crates} {prompt : String} {tokenLimit fuel : ℕ}
    {cancelAfter : Option ℕ} {encoding : WireEncoding} (positive : cancelAfter ≠ some 0) :
    let codec := EnvelopeCodec.forPlan encoding (Conversation.generate.preparedPlan crates)
    memoryThreads crates (Conversation.generate.preparedPlan crates) prompt tokenLimit cancelAfter
        encoding fuel =
      MemoryTransport.threads crates codec (atStart crates (MemoryTransport.plan { codec }) prompt
        cancelAfter tokenLimit fuel).program := by
  simp only [memoryThreads, roles_eq positive]

/-- Every interleaving of the two threads ends, and delivers the promised tokens. -/
theorem generate_delivers_tokens (crates : Crates) (reads : crates.ReadsBack)
    (concise : crates.Concise) :
    ∃ plan, PreparedPlan.compile crates .generate = .ok plan ∧
      ∀ (prompt : String) (tokenLimit : ℕ) (cancelAfter : Option ℕ) (encoding : WireEncoding),
        cancelAfter ≠ some 0 →
        (∃ encoded, (EnvelopeCodec.forPlan encoding plan).encode crates
          (promptEnvelope crates prompt) = .ok encoded) →
        ∀ fuel, tokenLimit + 2 ≤ fuel →
          Acc (fun after before => Program.Step MemoryLink.Answers before after)
            (memoryThreads crates plan prompt tokenLimit cancelAfter encoding fuel) ∧
          ∀ last, Relation.ReflTransGen (Program.Step MemoryLink.Answers)
              (memoryThreads crates plan prompt tokenLimit cancelAfter encoding fuel) last →
            last.Stuck MemoryLink.Answers →
              ∃ report, joinMemoryThreads encoding last = some (.ok report) ∧
                TokensDelivered (delivered tokenLimit cancelAfter) report := by
  refine ⟨_, compile crates, ?_⟩
  intro prompt tokenLimit cancelAfter encoding positive fits fuel enough
  refine ⟨(Program.wellFounded_step _).apply _, ?_⟩
  rcases fits with ⟨encoded, written⟩
  let codec := EnvelopeCodec.forPlan encoding (Conversation.generate.preparedPlan crates)
  let transport := MemoryTransport.plan { codec }
  have uncancelled : ∀ limit, cancelAfter = some limit → 0 < limit := by
    intro limit same
    apply Nat.pos_of_ne_zero
    intro zero
    rw [zero] at same
    exact positive same
  rcases @steps_rounds crates reads concise transport cancelAfter tokenLimit encoding tokenLimit
    0 fuel [promptFrame prompt] (Nat.zero_add _).symm uncancelled enough rfl with
    ⟨trace, length, rounds⟩
  have steps := (steps_prompt reads transport prompt cancelAfter tokenLimit fuel written).trans
    rounds
  have done : ∀ side, ∃ value, (Generate.ended crates transport
      (tokenIds (delivered tokenLimit cancelAfter)) trace).program side = .done value := by
    intro side
    cases side <;> exact ⟨_, rfl⟩
  have ends := (DraftSync.commutes.guarded (codec.Passes crates)).endsIn steps
    (Program.Network.stuck_of_done done)
  have leads : MemoryTransport.Leads crates codec
      (fun side => .ok (reported crates side transport
        (tokenIds (delivered tokenLimit cancelAfter)) trace))
      (atStart crates transport prompt cancelAfter tokenLimit fuel) := by
    refine ⟨_, ends.reaches, ?_⟩
    intro side
    cases side <;> exact ⟨rfl, rfl⟩
  rw [threads_eq positive]
  intro last threadSteps stuck
  have results := MemoryTransport.threads_end leads threadSteps stuck
  let count := delivered tokenLimit cancelAfter
  refine ⟨demoReport transport (reported crates .left transport (tokenIds count) trace)
    (reported crates .right transport (tokenIds count) trace), ?_, tokensDelivered length⟩
  unfold joinMemoryThreads
  rw [results .left, results .right]
  cases encoding <;> rfl

theorem generate_delivers_tokens_reference :
    ∃ plan, PreparedPlan.compile .reference .generate = .ok plan ∧
      ∀ last, Relation.ReflTransGen (Program.Step MemoryLink.Answers)
          (memoryThreads .reference plan "tell me" 3 (some 2) .compact 5) last →
        last.Stuck MemoryLink.Answers →
          ∃ report, joinMemoryThreads .compact last = some (.ok report) ∧
            TokensDelivered 2 report := by
  rcases generate_delivers_tokens .reference Crates.reference_lossless.readsBack
    Crates.reference_concise with ⟨plan, compiled, delivers⟩
  refine ⟨plan, compiled, ?_⟩
  have same : plan = Conversation.generate.preparedPlan .reference := by
    rw [compile, Except.ok.injEq] at compiled
    exact compiled.symm
  have passes : (EnvelopeCodec.forPlan .compact plan).Passes .reference
      (.send (promptEnvelope .reference "tell me")) := by
    rw [same]
    exact (utters_prompt "tell me").passes Crates.reference_lossless.readsBack
      Crates.reference_concise (plain_promptValue "tell me") (by decide)
  rcases passes with ⟨encoded, written, _⟩
  exact (delivers "tell me" 3 (some 2) .compact (by simp) ⟨encoded, written⟩ 5 (by omega)).2

end Generate

end Colloq
