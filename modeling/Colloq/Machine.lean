import Colloq.Plan
import Colloq.Trace

/-!
# Endpoint machines

An `EndpointMachine` executes one projected endpoint. Every public operation
returns its result together with the machine it leaves behind; `none` stands for
the panic of an `expect` on a state that the endpoint does not have. The sequence
number is a `u64` whose increment wraps, as in a release build.
-/

namespace Colloq

/-- `WIRE_FORMAT` -/
def wireFormat : String := "0.1.0"

structure WireEnvelope where
  colloqWire : String
  conversation : String
  conversationIdentity : String
  state : String
  sequence : UInt64
  frame : Frame
deriving DecidableEq

/-- The `std::io::ErrorKind`s that the runtime tells apart. -/
inductive IoErrorKind where
  | timedOut
  | wouldBlock
  | connectionReset
  | connectionRefused
  | addrNotAvailable
  | notConnected
  | other
deriving DecidableEq

/-- The texts of protocol errors, by the values that their `{:?}` placeholders print. -/
inductive ProtocolDetail where
  /-- `local action is {state:?}` -/
  | localAction (state : EndpointState)
  /-- `unknown branch {label}; expected one of {:?}` -/
  | unknownBranch (label : String) (expected : List String)
  /-- `local action is {state:?}; received {frame:?}` -/
  | receivedFrame (state : EndpointState) (frame : Frame)
  /-- `failure {failure} is not declared at this state` -/
  | undeclaredFailure (failure : String)
deriving DecidableEq

/-- The texts of compact wire errors, by the values that they print. -/
inductive CompactWireDetail where
  /-- `codec is prepared for conversation {expected}, received {actual}` -/
  | otherConversation (expected actual : String)
  /-- `codec is prepared for identity {expected}, received {actual}` -/
  | otherIdentity (expected actual : String)
  /-- `state {state} and frame {frame:?} have no transition ID in the prepared plan` -/
  | noTransition (state : String) (frame : Frame)
  /-- `local fault observations are not transmitted` -/
  | localFault
  /-- `unknown transition ID {id}` -/
  | unknownTransition (id : UInt16)
  /-- `select and cancel transitions cannot carry a payload` -/
  | controlPayload
deriving DecidableEq

/-- The texts of application errors, by the values that they print. -/
inductive ApplicationDetail where
  /-- `cancel_after must be at least one token` -/
  | cancelAfterZero
  /-- `{receiver} received unexpected frame {frame:?}` -/
  | unexpectedFrame (receiver : String) (frame : Frame)
  /-- `server expected cancellation, received {frame:?}` -/
  | expectedCancellation (frame : Frame)
  /-- `expected {message} data, received {frame:?}` -/
  | expectedData (message : String) (frame : Frame)
  /-- `token payload is missing u64 id` -/
  | missingTokenId
  /-- `prompt payload is missing text` -/
  | missingPromptText
  /-- `fault occurrence must be at least one` -/
  | faultOccurrenceZero
  /-- `fault plan references undeclared failure {failure}` -/
  | undeclaredFault (failure : String)
  /-- `fault plan references undeclared peer failure {failure}` -/
  | undeclaredPeerFault (failure : String)
  /-- `fault plan did not fire: {role} {operation} occurrence {occurrence} was not reached` -/
  | faultNotReached (role operation : String) (occurrence : ℕ)

inductive RuntimeError where
  | plan (error : PlanError)
  | unknownRole (role : String)
  | codec (error : String)
  | compactWire (detail : CompactWireDetail)
  | sessionRequired (transport : String)
  | sessionMismatch (field expected actual : String)
  | sessionRejected (transport : String)
  | io (kind : IoErrorKind)
  | transportClosed (transport : String)
  | envelopeTooLarge (actual limit : ℕ)
  | sessionPrefaceTooLarge (actual limit : ℕ)
  | wireVersion (actual expected : String)
  | conversationMismatch (role expected actual : String)
  | identityMismatch (role expected actual : String)
  | stateMismatch (role expected actual : String)
  | sequenceMismatch (role : String) (expected actual : UInt64)
  | protocol (role state action : String) (detail : ProtocolDetail)
  | application (detail : ApplicationDetail)
  | workerPanicked
  | quic (detail : String)
  | iroh (detail : String)
  | irohPeerIdentity (expected actual : String)
  | injectedFailure (role operation : String) (occurrence : ℕ) (failure : String)

/-- The failure id that an error stands for, when it is a transport failure. -/
def RuntimeError.transportFailure : RuntimeError → Option String
  | .io kind => some <| match kind with
    | .timedOut | .wouldBlock => "transport.timeout"
    | .connectionReset => "transport.reset"
    | .connectionRefused | .addrNotAvailable | .notConnected => "transport.unreachable"
    | .other => "transport.closed"
  | .transportClosed _ | .quic _ | .iroh _ => some "transport.closed"
  | .injectedFailure _ _ _ failure => some failure
  | _ => none

structure EndpointMachine where
  endpoint : Endpoint
  conversationIdentity : String
  planIdentity : String
  current : String
  sequence : UInt64
deriving DecidableEq

/-- The result of an operation with the machine after it; `none` is a panic. -/
abbrev Outcome (α : Type) := Option (Except RuntimeError α × EndpointMachine)

namespace EndpointMachine

def fromPlan (plan : PreparedPlan) (role : String) : Except RuntimeError EndpointMachine :=
  match plan.endpoint role with
  | none => .error (.unknownRole role)
  | some endpoint => .ok
      { endpoint, conversationIdentity := plan.conversationIdentity,
        planIdentity := plan.planIdentity, current := endpoint.initial, sequence := 0 }

def forRole (crates : Crates) (conversation : Conversation) (role : String) :
    Except RuntimeError EndpointMachine := do
  let plan ← (PreparedPlan.compile crates conversation).mapError .plan
  fromPlan plan role

variable (machine : EndpointMachine)

def role : String := machine.endpoint.role

def conversation : String := machine.endpoint.conversation

def state : Option EndpointState :=
  machine.endpoint.states.find? fun state => state.id == machine.current

def isComplete : Option Bool :=
  machine.state.map fun
    | .end _ | .fail .. => true
    | _ => false

def isSuccessful : Option Bool :=
  machine.state.map fun
    | .end _ => true
    | _ => false

def failure : Option (Option String) :=
  machine.state.map fun
    | .fail _ failure => some failure
    | _ => none

def protocolError (action : String) (detail : ProtocolDetail) : RuntimeError :=
  .protocol machine.role machine.current action detail

def observeFailureAt (stateId failure : String) : Outcome Frame :=
  let wasCurrent := machine.current == stateId
  match machine.endpoint.states.find? fun state => state.id == stateId with
  | none => none
  | some state =>
    match state.failureTarget failure with
    | none => some
        (.error (.protocol machine.role stateId "observe failure" (.undeclaredFailure failure)),
          machine)
    | some next => some
        (.ok (.fault machine.role failure),
          { machine with
            current := next
            sequence := if wasCurrent then machine.sequence + 1 else machine.sequence })

def observeFailure (failure : String) : Outcome Frame :=
  machine.observeFailureAt machine.current failure

/-- The envelope of a frame at the current state, and the machine moved on to `next`. -/
def emit (frame : Frame) (next : String) : WireEnvelope × EndpointMachine :=
  ({ colloqWire := wireFormat, conversation := machine.conversation,
     conversationIdentity := machine.conversationIdentity, state := machine.current,
     sequence := machine.sequence, frame },
    { machine with current := next, sequence := machine.sequence + 1 })

def emitData (payload : Value) : Outcome WireEnvelope :=
  match machine.state with
  | none => none
  | some (.send _ receiver message next ..) =>
    let (envelope, machine) :=
      machine.emit (.data machine.role receiver message (some payload)) next
    some (.ok envelope, machine)
  | some state => some (.error (machine.protocolError "send data" (.localAction state)), machine)

def emitSelect (label : String) : Outcome WireEnvelope :=
  match machine.state with
  | none => none
  | some (.select _ branches _) =>
    match branches[label]? with
    | none => some
        (.error (machine.protocolError "select branch" (.unknownBranch label branches.keys)),
          machine)
    | some next =>
      let (envelope, machine) := machine.emit (.select machine.role label) next
      some (.ok envelope, machine)
  | some state =>
    some (.error (machine.protocolError "select branch" (.localAction state)), machine)

def emitCancel : Outcome WireEnvelope :=
  match machine.state with
  | none => none
  | some (.sendCancel _ receiver scope next _) =>
    let (envelope, machine) := machine.emit (.cancel machine.role receiver scope) next
    some (.ok envelope, machine)
  | some state =>
    some (.error (machine.protocolError "send cancellation" (.localAction state)), machine)

def validateEnvelope (envelope : WireEnvelope) : Except RuntimeError Unit := do
  Checked.ensure (envelope.colloqWire = wireFormat) (.wireVersion envelope.colloqWire wireFormat)
  Checked.ensure (envelope.conversation = machine.conversation)
    (.conversationMismatch machine.role machine.conversation envelope.conversation)
  Checked.ensure (envelope.conversationIdentity = machine.conversationIdentity)
    (.identityMismatch machine.role machine.conversationIdentity envelope.conversationIdentity)
  Checked.ensure (envelope.state = machine.current)
    (.stateMismatch machine.role machine.current envelope.state)
  Checked.ensure (envelope.sequence = machine.sequence)
    (.sequenceMismatch machine.role machine.sequence envelope.sequence)

end EndpointMachine

/-- The arms of the `match` in `accept`: the next state of a local receive action. -/
def EndpointState.acceptFrame (role : String) : EndpointState → Frame → Option String
  | .receive _ sender message next .., .data actualSender receiver actualMessage _ =>
      if sender = actualSender ∧ role = receiver ∧ message = actualMessage then some next else none
  | .branch _ sender branches _, .select chooser label =>
      if sender = chooser then branches[label]? else none
  | .receiveCancel _ sender scope next _, .cancel actualSender receiver actualScope =>
      if sender = actualSender ∧ role = receiver ∧ scope = actualScope then some next else none
  | _, _ => none

namespace EndpointMachine

variable (machine : EndpointMachine)

def accept (envelope : WireEnvelope) : Outcome Frame :=
  match machine.validateEnvelope envelope with
  | .error error => some (.error error, machine)
  | .ok () =>
    match machine.state with
    | none => none
    | some state =>
      match state.acceptFrame machine.role envelope.frame with
      | none => some
          (.error (machine.protocolError "receive frame" (.receivedFrame state envelope.frame)),
            machine)
      | some next => some
          (.ok envelope.frame,
            { machine with current := next, sequence := machine.sequence + 1 })

/-- The three ways in which a role can act. -/
inductive Action where
  | data (payload : Value)
  | select (label : String)
  | cancel
deriving DecidableEq

/-- `emit_data`, `emit_select` or `emit_cancel`. -/
def perform : Action → Outcome WireEnvelope
  | .data payload => machine.emitData payload
  | .select label => machine.emitSelect label
  | .cancel => machine.emitCancel

end EndpointMachine

end Colloq
