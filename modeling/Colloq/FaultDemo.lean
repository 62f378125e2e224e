import Colloq.Generate
import Colloq.Library.TurnTaking

/-!
# The fault demo over memory channels

Two threads run the generate roles. Each holds one end of a memory link inside a
transport that injects a fault at a planned call, and both share the flag that
the fault has fired. The steps of the threads interleave at every load and store
of the flag and at every operation on a channel.
-/

namespace Colloq

open TurnTaking (Side)

inductive FaultOperation where
  | send
  | receive
deriving DecidableEq

def FaultOperation.asStr : FaultOperation → String
  | .send => "send"
  | .receive => "receive"

structure FaultPlan where
  role : String
  operation : FaultOperation
  occurrence : ℕ
  failure : String
  peerFailure : Option String := none
deriving DecidableEq

/-! ## What a thread does to what it shares -/

/-- The atomic steps: on the flag, on the two ends of a link, and dropping an end. -/
inductive LinkOp where
  | loadFired
  | storeFired
  | send (encoded : List UInt8)
  | recv
  | takeOutbound
  | takeInbound

/-- The error of a channel says no more than that it is closed. -/
@[reducible]
def LinkOp.Answer : LinkOp → Type
  | .loadFired => Bool
  | .storeFired | .takeOutbound | .takeInbound => Unit
  | .send _ => Except Unit Unit
  | .recv => Except Unit (List UInt8)

/-- `FaultInjectingTransport<MemoryTransport>` with the reference codec; of the two channel ends
it keeps whether they are `Some`. -/
structure FaultInjectingTransport where
  role : String
  plan : FaultPlan
  sends : ℕ := 0
  receives : ℕ := 0
  outbound : Bool := true
  inbound : Bool := true

namespace FaultInjectingTransport

def count (transport : FaultInjectingTransport) : FaultOperation → FaultInjectingTransport
  | .send => { transport with sends := transport.sends + 1 }
  | .receive => { transport with receives := transport.receives + 1 }

def occurrence (transport : FaultInjectingTransport) : FaultOperation → ℕ
  | .send => transport.sends
  | .receive => transport.receives

def injectedError (transport : FaultInjectingTransport) (operation : FaultOperation)
    (failure : String) : RuntimeError :=
  .injectedFailure transport.role operation.asStr (transport.occurrence operation) failure

end FaultInjectingTransport

abbrev Injecting := StateT FaultInjectingTransport (Program LinkOp LinkOp.Answer)

namespace Injecting

def loadFired : Injecting Bool := StateT.lift (Program.perform LinkOp.loadFired)

def storeFired : Injecting Unit := StateT.lift (Program.perform LinkOp.storeFired)

/-- `MemoryTransport::send` -/
def innerSend (crates : Crates) (envelope : WireEnvelope) :
    Injecting (Except RuntimeError Unit) := do
  match encodeEnvelope crates envelope with
  | .error error => return .error error
  | .ok encoded =>
    if (← get).outbound then
      let sent : Except Unit Unit ← StateT.lift (Program.perform (LinkOp.send encoded))
      return sent.mapError fun _ => .transportClosed "memory"
    else
      return .error (.transportClosed "memory")

/-- `MemoryTransport::receive` -/
def innerReceive (crates : Crates) : Injecting (Except RuntimeError WireEnvelope) := do
  if (← get).inbound then
    let received : Except Unit (List UInt8) ← StateT.lift (Program.perform LinkOp.recv)
    match received with
    | .error () => return .error (.transportClosed "memory")
    | .ok encoded => return decodeEnvelope crates encoded
  else
    return .error (.transportClosed "memory")

/-- `MemoryTransport::abort`, and what dropping the transport does. -/
def innerAbort : Injecting Unit := do
  if (← get).outbound then
    let _ : Unit ← StateT.lift (Program.perform LinkOp.takeOutbound)
    modify fun transport => { transport with outbound := false }
  if (← get).inbound then
    let _ : Unit ← StateT.lift (Program.perform LinkOp.takeInbound)
    modify fun transport => { transport with inbound := false }

/-- Count the call, and tell whether the fault is due at it. -/
def shouldInject (operation : FaultOperation) : Injecting Bool := do
  modify fun transport => transport.count operation
  let transport ← get
  let fired ← loadFired
  if fired = false ∧ transport.role = transport.plan.role ∧
      operation = transport.plan.operation ∧
      transport.occurrence operation = transport.plan.occurrence then
    storeFired
    return true
  else
    return false

/-- The peer of the faulted role sees the declared peer failure in place of a transport error. -/
def mapPeerError {α : Type} (operation : FaultOperation) (result : Except RuntimeError α) :
    Injecting (Except RuntimeError α) := do
  match result with
  | .ok value => return .ok value
  | .error error =>
    let transport ← get
    if transport.role ≠ transport.plan.role then
      if (← loadFired) && error.transportFailure.isSome then
        match transport.plan.peerFailure with
        | some failure => return .error (transport.injectedError operation failure)
        | none => return .error error
      else
        return .error error
    else
      return .error error

def send (crates : Crates) (envelope : WireEnvelope) : Injecting (Except RuntimeError Unit) := do
  if ← shouldInject .send then
    innerAbort
    let transport ← get
    return .error (transport.injectedError .send transport.plan.failure)
  else
    let result ← innerSend crates envelope
    mapPeerError .send result

def receive (crates : Crates) : Injecting (Except RuntimeError WireEnvelope) := do
  if ← shouldInject .receive then
    innerAbort
    let transport ← get
    return .error (transport.injectedError .receive transport.plan.failure)
  else
    let result ← innerReceive crates
    mapPeerError .receive result

/-- The `Transport` implementation; a memory transport has nothing to finish. -/
def handle (crates : Crates) : (op : TransportOp) → Injecting op.Answer
  | .send envelope => send crates envelope
  | .receive => receive crates
  | .finish _ => (pure (.ok ()) : Injecting (Except RuntimeError Unit))
  | .abort => innerAbort

end Injecting

/-- What a thread returns, by the program that it is for the link. -/
abbrev ThreadProgram := Program LinkOp LinkOp.Answer (Except Halt ExecutionReport)

/-- The closure of a thread owns its transport and drops it in the end. -/
def thread (crates : Crates) (transport : FaultInjectingTransport) (role : RoleProgram) :
    ThreadProgram := do
  let (result, transport) ← role.implement (Injecting.handle crates) transport
  let _ ← Injecting.innerAbort transport
  return result

/-! ## The memory link -/

/-- The two channels, by the side that reads from them, with the ends that are still there. -/
structure MemoryLink where
  fired : Bool
  outbound : Side → Bool
  inbound : Side → Bool
  queue : Side → List (List UInt8)

/-- FIFO channels: a send fails once the reading end is dropped; a receive takes the oldest
message, and fails only when there is none and the sending end is dropped. -/
inductive MemoryLink.Answers : MemoryLink → Side → (op : LinkOp) → op.Answer → MemoryLink → Prop
  where
  | loadFired (link : MemoryLink) (side : Side) : Answers link side .loadFired link.fired link
  | storeFired (link : MemoryLink) (side : Side) :
      Answers link side .storeFired () { link with fired := true }
  | sent {link : MemoryLink} {side : Side} (encoded : List UInt8)
      (open_ : link.inbound side.other = true) :
      Answers link side (.send encoded) (Except.ok ())
        { link with queue :=
            Function.update link.queue side.other (link.queue side.other ++ [encoded]) }
  | unsent {link : MemoryLink} {side : Side} (encoded : List UInt8)
      (closed : link.inbound side.other = false) :
      Answers link side (.send encoded) (Except.error ()) link
  | received {link : MemoryLink} {side : Side} {encoded : List UInt8}
      {rest : List (List UInt8)} (queued : link.queue side = encoded :: rest) :
      Answers link side .recv (Except.ok encoded)
        { link with queue := Function.update link.queue side rest }
  | unreceived {link : MemoryLink} {side : Side} (empty : link.queue side = [])
      (closed : link.outbound side.other = false) :
      Answers link side .recv (Except.error ()) link
  | takeOutbound (link : MemoryLink) (side : Side) : Answers link side .takeOutbound ()
      { link with outbound := Function.update link.outbound side false }
  | takeInbound (link : MemoryLink) (side : Side) : Answers link side .takeInbound ()
      { link with inbound := Function.update link.inbound side false }

/-- `memory_pair()` and a flag that is not set. -/
def MemoryLink.fresh : MemoryLink where
  fired := false
  outbound _ := true
  inbound _ := true
  queue _ := []

/-! ## The demo -/

structure DemoReport where
  transportPlan : String
  conversationIdentity : String
  planIdentity : String
  semanticTraceEquivalent : Bool
  outcomeEquivalent : Bool
  faultPlan : Option FaultPlan
  client : ExecutionReport
  server : ExecutionReport
deriving DecidableEq

def demoReport (transportPlan : String) (client server : ExecutionReport) : DemoReport where
  transportPlan := transportPlan
  conversationIdentity := client.conversationIdentity
  planIdentity := client.planIdentity
  semanticTraceEquivalent := client.semanticTrace == server.semanticTrace
  outcomeEquivalent := client.completed && server.completed &&
    client.successful == server.successful && client.failure == server.failure &&
    client.finalState == server.finalState
  faultPlan := none
  client := client
  server := server

/-- The client has the left end of the link. -/
def generateRole : Side → String
  | .left => "client"
  | .right => "server"

abbrev FaultNetwork := Program.Network Side MemoryLink LinkOp LinkOp.Answer
  (Except Halt ExecutionReport)

/-- What `run_memory_plan_fault_demo` checks before it spawns the two threads. -/
def checkFaultPlan (plan : PreparedPlan) (fault : FaultPlan) : Except RuntimeError Unit := do
  let declares (failure : String) : Bool :=
    (plan.endpoints.flatMap Endpoint.states).any fun state =>
      (state.failureTarget failure).isSome
  Checked.ensure ((plan.endpoint fault.role).isSome = true) (.unknownRole fault.role)
  Checked.ensure (declares fault.failure = true)
    (.application (.undeclaredFault fault.failure))
  match fault.peerFailure with
  | some failure =>
    Checked.ensure (declares failure = true) (.application (.undeclaredPeerFault failure))
  | none => .ok ()
  Checked.ensure (fault.occurrence ≠ 0) (.application .faultOccurrenceZero)

/-- The two threads before their first step. -/
def faultThreads (crates : Crates) (plan : PreparedPlan) (prompt : String) (tokenLimit : ℕ)
    (cancelAfter : Option ℕ) (fault : FaultPlan) (fuel : ℕ) : FaultNetwork where
  environment := .fresh
  program side := thread crates { role := generateRole side, plan := fault }
    (match side with
      | .left => runGenerateClientPlan crates plan "memory" prompt cancelAfter fuel
      | .right => runGenerateServerPlan crates plan "memory" tokenLimit fuel)

/-- `run_memory_plan_fault_demo` returns `Ok` with the report, after some interleaving of its
two threads. -/
inductive FaultDemoReturns (crates : Crates) (plan : PreparedPlan) (prompt : String)
    (tokenLimit : ℕ) (cancelAfter : Option ℕ) (fault : FaultPlan) (fuel : ℕ) :
    DemoReport → Prop where
  | joined {last : FaultNetwork} {client server : ExecutionReport}
      (checked : checkFaultPlan plan fault = .ok ())
      (steps : Relation.ReflTransGen (Program.Step MemoryLink.Answers)
        (faultThreads crates plan prompt tokenLimit cancelAfter fault fuel) last)
      (clientReturned : last.program .left = .done (.ok client))
      (serverReturned : last.program .right = .done (.ok server))
      (fired : last.environment.fired = true) :
      FaultDemoReturns crates plan prompt tokenLimit cancelAfter fault fuel
        { demoReport "memory+fault" client server with faultPlan := some fault }

end Colloq
