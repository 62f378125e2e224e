import Colloq.Codec
import Colloq.Library.Program

/-!
# The generate client and server

The two roles of the demo conversation, as programs that call on a transport. The
`while` loops get fuel; a run that exhausts it has no report.
-/

namespace Colloq

/-- The calls of the `Transport` trait. -/
inductive TransportOp where
  | send (envelope : WireEnvelope)
  | receive
  | finish (role : String)
  | abort

def TransportOp.Answer : TransportOp → Type
  | .send _ | .finish _ => Except RuntimeError Unit
  | .receive => Except RuntimeError WireEnvelope
  | .abort => Unit

/-- The machine and the trace that a role mutates. -/
structure Recorder where
  machine : EndpointMachine
  trace : List Frame

/-- How a role stops before its end: with an error, in a panic, or for want of fuel. -/
inductive Halt where
  | error (error : RuntimeError)
  | panic
  | outOfFuel

abbrev Recording := Program.Stateful TransportOp TransportOp.Answer Recorder Halt

namespace Recording

open Program.Stateful (ask)

/-- `transport.send` -/
def send (envelope : WireEnvelope) : Recording (Except RuntimeError Unit) :=
  ask (TransportOp.send envelope)

/-- `transport.receive` -/
def receive : Recording (Except RuntimeError WireEnvelope) :=
  ask TransportOp.receive

/-- `transport.finish` -/
def finish (role : String) : Recording (Except RuntimeError Unit) :=
  ask (TransportOp.finish role)

/-- `transport.abort` -/
def abort : Recording Unit := ask TransportOp.abort

/-- `result?` -/
def ofExcept {α : Type} : Except RuntimeError α → Recording α
  | .ok value => pure value
  | .error error => throw (.error error)

/-- A query that panics if the machine has lost its state. -/
def inspect {α : Type} (query : EndpointMachine → Option α) : Recording α := do
  let recorder ← get
  match query recorder.machine with
  | some value => return value
  | none => throw .panic

/-- An operation of the machine, followed by `?`. -/
def operate {α : Type} (operation : EndpointMachine → Outcome α) : Recording α := do
  let recorder ← get
  match operation recorder.machine with
  | none => throw .panic
  | some (result, machine) =>
    set { recorder with machine }
    ofExcept result

def record (frame : Frame) : Recording Unit := do
  let recorder ← get
  set { recorder with trace := recorder.trace ++ [frame] }

def sendAndRecord (envelope : WireEnvelope) : Recording Bool := do
  match ← send envelope with
  | .ok () =>
    record envelope.frame
    return true
  | .error error =>
    match error.transportFailure with
    | none => throw (.error error)
    | some failure =>
      abort
      let fault ← operate fun machine => machine.observeFailureAt envelope.state failure
      record fault
      return false

def receiveAndRecord : Recording (Option Frame) := do
  match ← receive with
  | .ok envelope =>
    let frame ← operate fun machine => machine.accept envelope
    record frame
    return some frame
  | .error error =>
    match error.transportFailure with
    | none => throw (.error error)
    | some failure =>
      abort
      let fault ← operate fun machine => machine.observeFailure failure
      record fault
      return none

end Recording

/-! ## The two roles -/

structure ExecutionReport where
  role : String
  transport : String
  conversation : String
  conversationIdentity : String
  planIdentity : String
  semanticTraceIdentity : String
  frames : UInt64
  tokens : List UInt64
  completed : Bool
  successful : Bool
  failure : Option String
  finalState : String
  semanticTrace : List Frame
deriving DecidableEq

def traceIdentity (crates : Crates) (trace : List Frame) : String :=
  sha256Identity crates (crates.toVec (.array (trace.map Frame.toJson)))

/-- `Value::get` of a key; only objects have members. -/
def Value.get (value : Value) (key : String) : Option Json :=
  match value.json with
  | .object members => members.lookup key
  | _ => none

/-- `Value::as_u64` -/
def Json.asU64 : Json → Option UInt64
  | .number (.posInt value) => some value
  | _ => none

/-- `Value::as_str` -/
def Json.asStr : Json → Option String
  | .string value => some value
  | _ => none

def tokenPayload (frame : Frame) : Except RuntimeError UInt64 :=
  match frame with
  | .data _ _ "token" (some payload) =>
    match (payload.get "id").bind Json.asU64 with
    | some tokenId => .ok tokenId
    | none => .error (.application .missingTokenId)
  | frame => .error (.application (.expectedData "token" frame))

def promptPayload (frame : Frame) : Except RuntimeError String :=
  match frame with
  | .data _ _ "prompt" (some payload) =>
    match (payload.get "text").bind Json.asStr with
    | some text => .ok text
    | none => .error (.application .missingPromptText)
  | frame => .error (.application (.expectedData "prompt" frame))

/-- `json!({ "text": prompt })` -/
def promptValue (prompt : String) : Value := ⟨.object [("text", .string prompt)], rfl⟩

/-- `json!({ "id": token_id })` -/
def tokenValue (tokenId : UInt64) : Value := ⟨.object [("id", .number (.posInt tokenId))], rfl⟩

namespace Recording

def report (crates : Crates) (transport : String) (tokens : List UInt64) :
    Recording ExecutionReport := do
  let completed ← inspect EndpointMachine.isComplete
  let successful ← inspect EndpointMachine.isSuccessful
  let failure ← inspect EndpointMachine.failure
  let recorder ← get
  return {
    role := recorder.machine.role
    transport
    conversation := recorder.machine.conversation
    conversationIdentity := recorder.machine.conversationIdentity
    planIdentity := recorder.machine.planIdentity
    semanticTraceIdentity := traceIdentity crates recorder.trace
    frames := recorder.machine.sequence
    tokens, completed, successful, failure
    finalState := recorder.machine.current
    semanticTrace := recorder.trace }

/-- The end of both roles: a successful one finishes its transport. -/
def conclude (crates : Crates) (transport : String) (tokens : List UInt64) :
    Recording ExecutionReport := do
  if ← inspect EndpointMachine.isSuccessful then
    let recorder ← get
    ofExcept (← finish recorder.machine.role)
  report crates transport tokens

/-- The loop of the client; it returns the tokens when the loop ends or is left. -/
def clientLoop (cancelAfter : Option ℕ) : ℕ → List UInt64 → Recording (List UInt64)
  | 0, _ => throw .outOfFuel
  | fuel + 1, tokens => do
    if ← inspect EndpointMachine.isComplete then
      return tokens
    else
      match ← receiveAndRecord with
      | none => return tokens
      | some (.select chooser label) =>
        if label = "done" then
          clientLoop cancelAfter fuel tokens
        else if label = "token" then
          match ← receiveAndRecord with
          | none => return tokens
          | some token =>
            let tokenId ← ofExcept (tokenPayload token)
            let tokens := tokens ++ [tokenId]
            if cancelAfter.any (· ≤ tokens.length) then
              let selection ← operate fun machine => machine.emitSelect "cancel"
              if ← sendAndRecord selection then
                let cancellation ← operate fun machine => machine.emitCancel
                if ← sendAndRecord cancellation then
                  clientLoop cancelAfter fuel tokens
                else
                  return tokens
              else
                return tokens
            else
              let selection ← operate fun machine => machine.emitSelect "continue"
              if ← sendAndRecord selection then
                clientLoop cancelAfter fuel tokens
              else
                return tokens
        else
          throw (.error (.application (.unexpectedFrame "client" (.select chooser label))))
      | some frame => throw (.error (.application (.unexpectedFrame "client" frame)))

/-- `run_generate_client_plan` once the machine exists. -/
def clientBody (crates : Crates) (transport prompt : String) (cancelAfter : Option ℕ)
    (fuel : ℕ) : Recording ExecutionReport := do
  let prompt ← operate fun machine => machine.emitData (promptValue prompt)
  if ← sendAndRecord prompt then
    let tokens ← clientLoop cancelAfter fuel []
    conclude crates transport tokens
  else
    report crates transport []

/-- The loop of the server; it returns the tokens when the loop ends or is left. -/
def serverLoop (tokenLimit : ℕ) : ℕ → List UInt64 → Recording (List UInt64)
  | 0, _ => throw .outOfFuel
  | fuel + 1, tokens => do
    if ← inspect EndpointMachine.isComplete then
      return tokens
    else if tokenLimit ≤ tokens.length then
      let done ← operate fun machine => machine.emitSelect "done"
      if ← sendAndRecord done then
        serverLoop tokenLimit fuel tokens
      else
        return tokens
    else
      let selection ← operate fun machine => machine.emitSelect "token"
      if ← sendAndRecord selection then
        let tokenId := UInt64.ofNat tokens.length + 1
        let token ← operate fun machine => machine.emitData (tokenValue tokenId)
        if ← sendAndRecord token then
          let tokens := tokens ++ [tokenId]
          match ← receiveAndRecord with
          | none => return tokens
          | some (.select chooser label) =>
            if label = "continue" then
              serverLoop tokenLimit fuel tokens
            else if label = "cancel" then
              match ← receiveAndRecord with
              | none => return tokens
              | some (.cancel ..) => serverLoop tokenLimit fuel tokens
              | some frame => throw (.error (.application (.expectedCancellation frame)))
            else
              throw (.error (.application (.unexpectedFrame "server" (.select chooser label))))
          | some frame => throw (.error (.application (.unexpectedFrame "server" frame)))
        else
          return tokens
      else
        return tokens

/-- `run_generate_server_plan` once the machine exists. -/
def serverBody (crates : Crates) (transport : String) (tokenLimit fuel : ℕ) :
    Recording ExecutionReport := do
  match ← receiveAndRecord with
  | none => report crates transport []
  | some prompt =>
    let _ ← ofExcept (promptPayload prompt)
    let tokens ← serverLoop tokenLimit fuel []
    conclude crates transport tokens

end Recording

/-- What a role returns, by the program that it is for its transport. -/
abbrev RoleProgram :=
  Program TransportOp TransportOp.Answer (Except Halt ExecutionReport)

/-- `EndpointMachine::from_plan(plan, role)?`, then the body on an empty trace. -/
def runRole (plan : PreparedPlan) (role : String) (body : Recording ExecutionReport) :
    RoleProgram :=
  match EndpointMachine.fromPlan plan role with
  | .error error => .done (.error (.error error))
  | .ok machine => Prod.fst <$> body.start { machine, trace := [] }

def runGenerateClientPlan (crates : Crates) (plan : PreparedPlan) (transport prompt : String)
    (cancelAfter : Option ℕ) (fuel : ℕ) : RoleProgram :=
  if cancelAfter = some 0 then
    .done (.error (.error (.application .cancelAfterZero)))
  else
    runRole plan "client" (Recording.clientBody crates transport prompt cancelAfter fuel)

def runGenerateServerPlan (crates : Crates) (plan : PreparedPlan) (transport : String)
    (tokenLimit fuel : ℕ) : RoleProgram :=
  runRole plan "server" (Recording.serverBody crates transport tokenLimit fuel)

end Colloq
