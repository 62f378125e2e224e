import Colloq.Conduct
import Colloq.FaultDemo
import Colloq.RoundTrip
import Colloq.Session

/-!
# Histories under an injected fault

Until a call fails, a thread of the fault demo takes part in a session: what it
sends is emitted there and what it receives is delivered. The first failure ends
its part, with a fault that the end of its link explains.
-/

namespace Colloq

open Program (Discipline)
open Program.Stateful (Ensures)
open TurnTaking (Side)

/-! ## How a role uses its transport -/

/-- Where a role is in the use of its transport: it takes part until a call fails, then it
aborts. It is lost if it does not accept what it received. -/
inductive Stage where
  | active (party : Party)
  | failed (party : Party) (error : RuntimeError)
  | ended (party : Party) (error : RuntimeError)
  | lost

namespace Stage

def sent (party : Party) (machine : EndpointMachine) (frame : Frame) :
    Except RuntimeError Unit → Stage
  | .ok () => .active { machine, observed := party.observed ++ [frame] }
  | .error error => .failed party error

def accepted (party : Party) (envelope : WireEnvelope) : Stage :=
  match party.machine.accept envelope with
  | some (.ok frame, machine) => .active { machine, observed := party.observed ++ [frame] }
  | _ => .lost

def received (party : Party) : Except RuntimeError WireEnvelope → Stage
  | .ok envelope => accepted party envelope
  | .error error => .failed party error

/-- The calls of a role: it sends what its machine emits, and plain payloads only. -/
inductive Calls : Discipline TransportOp TransportOp.Answer Stage where
  | send {party : Party} {action : EndpointMachine.Action} {envelope : WireEnvelope}
      {machine : EndpointMachine} (plain : action.Plain)
      (performed : party.machine.perform action = some (.ok envelope, machine)) :
      Calls (.active party) (.send envelope) (sent party machine envelope.frame)
  | receive (party : Party) : Calls (.active party) .receive (received party)
  | finish (party : Party) (role : String) :
      Calls (.active party) (.finish role) fun _ => .active party
  | abort (party : Party) (error : RuntimeError) :
      Calls (.failed party error) .abort fun _ => .ended party error

end Stage

variable {conversation : Conversation} {role : String}

namespace Recorder

/-- The role takes part, with the machine and the trace of its recorder. -/
structure TakesPart (conversation : Conversation) (role : String) (stage : Stage)
    (recorder : Recorder) : Prop where
  stage_eq : stage = .active { machine := recorder.machine, observed := recorder.trace }
  executes : recorder.machine.Executes conversation
  role_eq : recorder.machine.role = role

/-- The role has recorded the failure of a call as a fault, and stands in its fail state. -/
structure Faulted (role : String) (stage : Stage) (recorder : Recorder) : Prop where
  recorded : ∃ party error failure, stage = .ended party error ∧
    error.transportFailure = some failure ∧
    recorder.trace = party.observed ++ [.fault role failure] ∧
    recorder.machine.failure = some (some failure)
  complete : recorder.machine.isComplete = some true
  unsuccessful : recorder.machine.isSuccessful = some false

/-- The fault that a machine observes ends the history of its party. -/
theorem faulted_of_observed {machine after : EndpointMachine} {party : Party}
    {error : RuntimeError} {id failure : String} {fault : Frame}
    (executes : machine.Executes conversation) (role_eq : machine.role = role)
    (named : error.transportFailure = some failure)
    (observed : machine.observeFailureAt id failure = some (.ok fault, after)) :
    Faulted role (.ended party error)
      { machine := after, trace := party.observed ++ [fault] } := by
  rcases executes.observeFailureAt_eq_ok_iff.mp observed with ⟨sameFault, next, allowed, moved⟩
  have hasState := executes.wellFormed.hasState_next allowed
  have failMem := executes.wellFormed.fail_mem_of_next allowed
  have found := (Conversation.getElem?_stateMap executes.wellFormed.stateIds_nodup).mpr
    ⟨failMem, rfl⟩
  have afterExecutes : after.Executes conversation := by
    rw [moved]
    exact ⟨executes.wellFormed, executes.endpoint_eq, executes.role_mem, hasState⟩
  have current : after.current = next := by rw [moved]
  have here : conversation.stateMap[after.current]? = some (.fail next failure) := by
    rw [current]
    exact found
  rcases afterExecutes.report_eq here 0 with ⟨complete, successful, reported⟩
  refine ⟨⟨party, error, failure, rfl, named, ?_, reported⟩, complete, successful⟩
  rw [sameFault, role_eq]

end Recorder

namespace Recording

open Recorder (TakesPart Faulted)

/-- All that the two roles do is allowed at their stages, whatever fails. -/
theorem conducts_calls :
    Conducts Stage.Calls (TakesPart conversation role) (Faulted role) where
  send := by
    intro stage recorder action envelope machine takesPart plain performed
    rcases takesPart with ⟨stageEq, executes, roleEq⟩
    rcases executes.perform_eq_ok_iff.mp performed with ⟨frame, next, _, _, allowed, sealed, moved⟩
    have hasState := executes.wellFormed.hasState_next allowed
    subst stage envelope machine
    apply follows_sendAndRecord (.send plain performed)
    · intro _ same
      rw [← Except.ok.inj same]
      exact ⟨rfl, executes.moved hasState, roleEq⟩
    · intro _ _ _ same
      simp at same
    · intro error failure named
      refine ⟨_, .abort _ _, ?_, by simp, by simp⟩
      intro fault after observed sent same
      rw [← Except.ok.inj same]
      exact Recorder.faulted_of_observed (executes.moved hasState) roleEq named observed
  receive := by
    intro stage recorder takesPart
    rcases takesPart with ⟨stageEq, executes, roleEq⟩
    subst stage
    apply follows_receiveAndRecord (.receive _)
    · intro envelope
      refine ⟨?_, by simp, by simp⟩
      intro frame machine accepted _ same
      rcases executes.accept_eq_ok_iff.mp accepted with ⟨_, _, next, allowed, moved⟩
      rw [← Except.ok.inj same]
      have stays : machine.Executes conversation ∧ machine.role = role := by
        rw [moved]
        exact ⟨executes.moved (executes.wellFormed.hasState_next allowed), roleEq⟩
      refine ⟨?_, stays.1, stays.2⟩
      simp [Stage.received, Stage.accepted, accepted]
    · intro _ _ _ same
      simp at same
    · intro error failure named
      refine ⟨_, .abort _ _, ?_, by simp, by simp⟩
      intro fault after observed received same
      rw [← Except.ok.inj same]
      exact Recorder.faulted_of_observed executes roleEq named observed
  finish := by
    intro stage recorder left successful
    rcases left with takesPart | faulted
    · rcases takesPart with ⟨stageEq, executes, roleEq⟩
      subst stage
      exact ⟨_, .finish _ _, fun _ => .inl ⟨rfl, executes, roleEq⟩⟩
    · rw [faulted.unsuccessful] at successful
      simp at successful

end Recording

/-! ## How a thread uses its end of the link -/

/-- How a thread stands to the link: it holds both ends, it has fired the fault, it met a closed
channel, it has then read the flag, or it has dropped an end for another reason. -/
inductive Fate where
  | live
  | fired
  | hung
  | judged (noticed : Bool)
  | gone

/-- The party that a thread is in the session, and how it stands to the link. -/
structure Holder where
  party : Party
  fate : Fate

namespace Holder

def judge (holder : Holder) (fired : Bool) : Holder :=
  match holder.fate with
  | .hung => { holder with fate := .judged fired }
  | _ => holder

def leave (holder : Holder) : Holder :=
  match holder.fate with
  | .live => { holder with fate := .gone }
  | _ => holder

def sent (party : Party) (machine : EndpointMachine) (frame : Frame) : Except Unit Unit → Holder
  | .ok () => { party := { machine, observed := party.observed ++ [frame] }, fate := .live }
  | .error () => { party, fate := .hung }

def accepted (party : Party) (envelope : WireEnvelope) : Holder :=
  match party.machine.accept envelope with
  | some (.ok frame, machine) =>
    { party := { machine, observed := party.observed ++ [frame] }, fate := .live }
  | _ => { party, fate := .gone }

def received (crates : Crates) (party : Party) : Except Unit (List UInt8) → Holder
  | .ok encoded =>
    match decodeEnvelope crates encoded with
    | .ok envelope => accepted party envelope
    | .error _ => { party, fate := .gone }
  | .error () => { party, fate := .hung }

/-- The steps of a thread: while it is live it sends what its machine emits, in a form that the
peer decodes, and only the faulted thread sets the flag. -/
inductive Calls (crates : Crates) (faulted : Bool) : Discipline LinkOp LinkOp.Answer Holder where
  | loadFired (holder : Holder) : Calls crates faulted holder .loadFired holder.judge
  | storeFired (party : Party) (isFaulted : faulted = true) :
      Calls crates faulted { party, fate := .live } .storeFired
        fun _ => { party, fate := .fired }
  | send {party : Party} {action : EndpointMachine.Action} {envelope : WireEnvelope}
      {machine : EndpointMachine} {encoded : List UInt8}
      (performed : party.machine.perform action = some (.ok envelope, machine))
      (decodes : decodeEnvelope crates encoded = .ok envelope) :
      Calls crates faulted { party, fate := .live } (.send encoded)
        (sent party machine envelope.frame)
  | recv (party : Party) :
      Calls crates faulted { party, fate := .live } .recv (received crates party)
  | takeOutbound (holder : Holder) :
      Calls crates faulted holder .takeOutbound fun _ => holder.leave
  | takeInbound (holder : Holder) :
      Calls crates faulted holder .takeInbound fun _ => holder.leave

end Holder

/-- The failure that a thread reports once it is no longer live. -/
def Fate.Explains (fault : FaultPlan) (faulted : Bool) : Fate → String → Prop
  | .fired, failure => failure = fault.failure
  | .hung, _ => faulted = true
  | .judged noticed, failure => failure =
      if noticed = true then fault.peerFailure.getD "transport.closed" else "transport.closed"
  | .live, _ | .gone, _ => False

/-- A failed call is explained, if it is a transport failure. -/
def Holder.Explains (fault : FaultPlan) (faulted : Bool) (holder : Holder)
    (error : RuntimeError) : Prop :=
  ∀ failure, error.transportFailure = some failure →
    holder.fate.Explains fault faulted failure

@[simp]
theorem Holder.party_leave (holder : Holder) : holder.leave.party = holder.party := by
  rcases holder with ⟨party, fate⟩
  cases fate <;> rfl

theorem Holder.fate_leave (holder : Holder) :
    (holder.fate ≠ .live ∧ holder.leave.fate = holder.fate) ∨
      (holder.fate = .live ∧ holder.leave.fate = .gone) := by
  rcases holder with ⟨party, fate⟩
  cases fate <;> simp [leave]

@[simp]
theorem Holder.explains_leave {fault : FaultPlan} {faulted : Bool} {holder : Holder}
    {error : RuntimeError} :
    holder.leave.Explains fault faulted error ↔ holder.Explains fault faulted error := by
  rcases holder with ⟨party, fate⟩
  cases fate <;> rfl

/-- The transport of a thread is used by the stage of its role. -/
structure FaultInjectingTransport.Serves (fault : FaultPlan) (role : String) (holder : Holder)
    (stage : Stage) (transport : FaultInjectingTransport) : Prop where
  role_eq : transport.role = role
  plan_eq : transport.plan = fault
  active : ∀ party, stage = .active party →
    holder = { party, fate := .live } ∧ transport.outbound = true ∧ transport.inbound = true
  failed : ∀ party error, stage = .failed party error ∨ stage = .ended party error →
    holder.party = party ∧ holder.Explains fault (role == fault.role) error

namespace FaultInjectingTransport

variable {fault : FaultPlan} {role : String} {holder : Holder}
  {transport : FaultInjectingTransport} {party : Party}

@[simp]
theorem role_count (operation : FaultOperation) :
    (transport.count operation).role = transport.role := by
  cases operation <;> rfl

@[simp]
theorem plan_count (operation : FaultOperation) :
    (transport.count operation).plan = transport.plan := by
  cases operation <;> rfl

@[simp]
theorem outbound_count (operation : FaultOperation) :
    (transport.count operation).outbound = transport.outbound := by
  cases operation <;> rfl

@[simp]
theorem inbound_count (operation : FaultOperation) :
    (transport.count operation).inbound = transport.inbound := by
  cases operation <;> rfl

theorem serves_failed {error : RuntimeError} (roleEq : transport.role = role)
    (planEq : transport.plan = fault) (sameParty : holder.party = party)
    (explains : holder.Explains fault (role == fault.role) error) :
    transport.Serves fault role holder (.failed party error) := by
  refine ⟨roleEq, planEq, by simp, ?_⟩
  intro failedParty failedError same
  rcases same with same | same <;> cases same
  exact ⟨sameParty, explains⟩

theorem serves_active (roleEq : transport.role = role) (planEq : transport.plan = fault)
    (outbound : transport.outbound = true) (inbound : transport.inbound = true) :
    transport.Serves fault role { party, fate := .live } (.active party) := by
  refine ⟨roleEq, planEq, ?_, by simp⟩
  intro active same
  cases same
  exact ⟨rfl, outbound, inbound⟩

end FaultInjectingTransport

namespace Injecting

variable {crates : Crates} {fault : FaultPlan} {holder : Holder}
  {transport : FaultInjectingTransport}

section Equations

variable {α β : Type} (transport : FaultInjectingTransport)

theorem bind_apply (first : Injecting β) (rest : β → Injecting α) :
    (first >>= rest) transport =
      first transport >>= fun ended => rest ended.1 ended.2 := rfl

theorem pure_apply (value : α) :
    (pure value : Injecting α) transport = .done (value, transport) := rfl

theorem get_apply : (get : Injecting _) transport = .done (transport, transport) := rfl

end Equations

/-- To abort is to leave the link, if it has not been left. -/
theorem follows_innerAbort {faulted : Bool} :
    Program.Follows (Holder.Calls crates faulted)
      (fun later (ended : Unit × FaultInjectingTransport) =>
        (later = holder ∨ later = holder.leave) ∧ ended.2.role = transport.role ∧
          ended.2.plan = transport.plan) holder (innerAbort transport) := by
  rcases transport with ⟨_, _, _, _, outbound, inbound⟩
  have twice : holder.leave.leave = holder.leave := by
    rcases holder with ⟨party, fate⟩
    cases fate <;> rfl
  cases outbound with
  | false =>
      cases inbound with
      | false => exact ⟨.inl rfl, rfl, rfl⟩
      | true => exact ⟨_, .takeInbound _, fun _ => ⟨.inr rfl, rfl, rfl⟩⟩
  | true =>
      cases inbound with
      | false => exact ⟨_, .takeOutbound _, fun _ => ⟨.inr rfl, rfl, rfl⟩⟩
      | true => exact ⟨_, .takeOutbound _, fun _ => ⟨_, .takeInbound _,
          fun _ => ⟨.inr twice, rfl, rfl⟩⟩⟩

/-- After a closed channel, the thread that is not faulted reads the flag and names the failure
accordingly; any other error passes. -/
theorem follows_mapPeerError {α : Type} {operation : FaultOperation} {error : RuntimeError}
    (closed : holder.fate = .hung → error.transportFailure = some "transport.closed")
    (silent : holder.fate ≠ .hung → error.transportFailure = none)
    (planEq : transport.plan = fault) :
    Program.Follows (Holder.Calls crates (transport.role == fault.role))
      (fun later (ended : Except RuntimeError α × FaultInjectingTransport) =>
        ended.2 = transport ∧ later.party = holder.party ∧ ∃ mapped, ended.1 = .error mapped ∧
          later.Explains fault (transport.role == fault.role) mapped)
      holder (mapPeerError operation (.error error) transport) := by
  subst fault
  by_cases isFaulted : transport.role = transport.plan.role
  · have unmapped : (mapPeerError operation (.error error) : Injecting (Except RuntimeError α))
        transport = .done (.error error, transport) := by
      simp [mapPeerError, bind_apply, get_apply, pure_apply, isFaulted]
    rw [unmapped]
    refine ⟨rfl, rfl, error, rfl, ?_⟩
    intro failure named
    rcases holder with ⟨party, fate⟩
    cases fate with
    | hung => simpa [Fate.Explains] using isFaulted
    | _ => simp [silent (by simp)] at named
  · have reads : (mapPeerError operation (.error error) : Injecting (Except RuntimeError α))
        transport = loadFired transport >>= fun loaded =>
          .done (.error (if (loaded.1 && error.transportFailure.isSome) = true then
            (transport.plan.peerFailure.map (transport.injectedError operation)).getD error
            else error), loaded.2) := by
      simp only [mapPeerError, bind_apply, get_apply, Program.done_bind, ne_eq, isFaulted,
        not_false_eq_true, if_true]
      congr 1
      funext loaded
      rcases transport.plan.peerFailure with _ | failure <;> split_ifs <;> rfl
    rw [reads]
    refine ⟨_, .loadFired _, ?_⟩
    intro (noticed : Bool)
    refine ⟨rfl, ?_, _, rfl, ?_⟩
    · rcases holder with ⟨party, fate⟩
      cases fate <;> rfl
    · intro failure named
      rcases holder with ⟨party, fate⟩
      cases fate with
      | hung =>
          have closedName := closed rfl
          cases noticed with
          | false =>
              simp only [Bool.false_and, Bool.false_eq_true, if_false, closedName] at named
              exact (Option.some.inj named).symm
          | true =>
              simp only [Bool.true_and, closedName, Option.isSome_some, if_true] at named
              rcases declared : transport.plan.peerFailure with _ | peerFailure
              · simp only [declared, Option.map_none, Option.getD_none, closedName] at named
                simpa [Holder.judge, Fate.Explains, declared] using (Option.some.inj named).symm
              · simp only [declared, Option.map_some, Option.getD_some] at named
                simpa [Holder.judge, Fate.Explains, declared] using (Option.some.inj named).symm
      | _ =>
          have noName := silent (by simp)
          simp [noName] at named

/-- A call at which the fault is due ends in the planned failure, with both ends dropped. -/
theorem follows_injected {α : Type} {operation : FaultOperation}
    (fired : holder.fate = .fired) (planEq : transport.plan = fault) {faulted : Bool} :
    Program.Follows (Holder.Calls crates faulted)
      (fun later (ended : Except RuntimeError α × FaultInjectingTransport) =>
        later.party = holder.party ∧ ended.2.role = transport.role ∧ ended.2.plan = fault ∧
          ∃ error, ended.1 = .error error ∧ later.Explains fault faulted error)
      holder ((do
        innerAbort
        let transport ← get
        return .error (transport.injectedError operation transport.plan.failure) :
          Injecting (Except RuntimeError α)) transport) := by
  rw [bind_apply]
  apply Program.Follows.bind follows_innerAbort
  intro later ended holds
  rcases holds with ⟨later_eq, roleEq, endedPlan⟩
  have same : later = holder := by
    rcases holder with ⟨party, fate⟩
    cases fired
    rcases later_eq with same | same <;> exact same
  subst later
  refine ⟨rfl, roleEq, endedPlan.trans planEq, _, rfl, ?_⟩
  intro failure named
  rw [fired]
  have name := Option.some.inj named
  rw [← name, endedPlan, planEq]
  rfl

theorem transportFailure_encodeEnvelope {envelope : WireEnvelope} {error : RuntimeError}
    (failed : encodeEnvelope crates envelope = .error error) : error.transportFailure = none := by
  by_cases fits : (crates.toVec envelope.toJson).length ≤ maxEnvelopeBytes
  · simp [encodeEnvelope, encodeDocument, Checked.ensure, fits, bind, Except.bind, pure,
      Except.pure] at failed
  · simp only [encodeEnvelope, encodeDocument, Checked.ensure, fits, bind, Except.bind,
      if_false] at failed
    rw [← Except.error.inj failed]
    rfl

/-- A text that is not understood is no transport failure. -/
theorem transportFailure_decodeEnvelope {encoded : List UInt8} {error : RuntimeError}
    (failed : decodeEnvelope crates encoded = .error error) : error.transportFailure = none := by
  by_cases fits : encoded.length ≤ maxEnvelopeBytes
  · rcases sliced : crates.fromSlice encoded with text | document
    · simp only [decodeEnvelope, decodeDocument, Checked.ensure, fits, sliced, Except.mapError,
        bind, Except.bind, if_true] at failed
      rw [← Except.error.inj failed]
      rfl
    · rcases read : WireEnvelope.fromJson document with text | envelope
      · simp only [decodeEnvelope, decodeDocument, Checked.ensure, fits, sliced, read,
          Except.mapError, bind, Except.bind, if_true] at failed
        rw [← Except.error.inj failed]
        rfl
      · simp [decodeEnvelope, decodeDocument, Checked.ensure, fits, sliced, read,
          Except.mapError, bind, Except.bind] at failed
  · simp only [decodeEnvelope, decodeDocument, Checked.ensure, fits, bind, Except.bind,
      if_false] at failed
    rw [← Except.error.inj failed]
    rfl

/-- The fault of the transport is due at its latest call. -/
def Due (transport : FaultInjectingTransport) (operation : FaultOperation) : Prop :=
  transport.role = transport.plan.role ∧ operation = transport.plan.operation ∧
    transport.occurrence operation = transport.plan.occurrence

instance (transport : FaultInjectingTransport) (operation : FaultOperation) :
    Decidable (Due transport operation) := inferInstanceAs (Decidable (_ ∧ _ ∧ _))

theorem shouldInject_apply (operation : FaultOperation) :
    shouldInject operation transport =
      .call .loadFired fun (fired : Bool) =>
        if fired = false ∧ Due (transport.count operation) operation then
          .call .storeFired fun _ => .done (true, transport.count operation)
        else .done (false, transport.count operation) := by
  change Program.call _ _ = Program.call _ _
  congr 1
  funext (fired : Bool)
  change (if fired = false ∧ Due (transport.count operation) operation then
    (do
      storeFired
      return true : Injecting Bool)
    else return false : Injecting Bool) (transport.count operation) = _
  split_ifs <;> rfl

/-- A live thread that counts a call fires the fault there, or stays live. -/
theorem follows_shouldInject {operation : FaultOperation} (live : holder.fate = .live)
    (planEq : transport.plan = fault) :
    Program.Follows (Holder.Calls crates (transport.role == fault.role))
      (fun later (ended : Bool × FaultInjectingTransport) =>
        ended.2 = transport.count operation ∧
          later = { holder with fate := if ended.1 = true then .fired else .live })
      holder (shouldInject operation transport) := by
  rcases holder with ⟨party, fate⟩
  cases live
  rw [shouldInject_apply]
  refine ⟨_, .loadFired _, ?_⟩
  intro (fired : Bool)
  beta_reduce
  by_cases due : fired = false ∧ Due (transport.count operation) operation
  · rw [if_pos due]
    have isFaulted : (transport.role == fault.role) = true := by
      have named := due.2.1
      subst fault
      cases operation <;> simpa [FaultInjectingTransport.count] using named
    exact ⟨_, .storeFired _ isFaulted, fun _ => ⟨rfl, rfl⟩⟩
  · rw [if_neg due]
    exact ⟨rfl, rfl⟩

section Handle

variable {conversation : Conversation} {party : Party} {role : String}

/-- Every call of a live thread goes on to the channel, if it is not the planned one. -/
theorem follows_injecting {α : Type} {operation : FaultOperation}
    {inner : Injecting (Except RuntimeError α)} {answered : Except RuntimeError α → Stage}
    (failed : ∀ error, answered (.error error) = .failed party error)
    (serves : transport.Serves fault role holder (.active party))
    (passes : ∀ transport : FaultInjectingTransport, transport.role = role →
      transport.plan = fault → transport.outbound = true → transport.inbound = true →
      Program.Follows (Holder.Calls crates (role == fault.role))
        (fun later (ended : Except RuntimeError α × FaultInjectingTransport) =>
          ended.2.Serves fault role later (answered ended.1)) { party, fate := .live }
        ((inner >>= fun result => mapPeerError operation result) transport)) :
    Program.Follows (Holder.Calls crates (role == fault.role))
      (fun later (ended : Except RuntimeError α × FaultInjectingTransport) =>
        ended.2.Serves fault role later (answered ended.1)) holder ((do
          if ← shouldInject operation then
            innerAbort
            let transport ← get
            return .error (transport.injectedError operation transport.plan.failure)
          else
            let result ← inner
            mapPeerError operation result : Injecting (Except RuntimeError α)) transport) := by
  rcases serves.active party rfl with ⟨same, outbound, inbound⟩
  subst holder
  rw [bind_apply]
  have roleEq := serves.role_eq
  have planEq := serves.plan_eq
  subst role
  apply Program.Follows.bind (follows_shouldInject rfl planEq)
  intro later ended counted
  rcases ended with ⟨injected, after⟩
  rcases counted with ⟨same, sameHolder⟩
  dsimp only at same sameHolder
  subst after later
  cases injected with
  | true =>
      apply Program.Follows.mono _ (follows_injected rfl (by simpa using planEq))
      intro later ended holds
      rcases holds with ⟨sameParty, sameRole, samePlan, error, same, explains⟩
      rw [same, failed]
      exact FaultInjectingTransport.serves_failed (by simpa using sameRole) samePlan sameParty
        explains
  | false =>
      exact passes _ (by simp) (by simpa using planEq) (by simpa using outbound)
        (by simpa using inbound)

/-- After an error of the inner transport, the role has failed. -/
theorem follows_mapped {α : Type} {operation : FaultOperation} {error : RuntimeError}
    {answered : Except RuntimeError α → Stage}
    (failed : ∀ error, answered (.error error) = .failed party error)
    (closed : holder.fate = .hung → error.transportFailure = some "transport.closed")
    (silent : holder.fate ≠ .hung → error.transportFailure = none)
    (sameParty : holder.party = party) (roleEq : transport.role = role)
    (planEq : transport.plan = fault) :
    Program.Follows (Holder.Calls crates (role == fault.role))
      (fun later (ended : Except RuntimeError α × FaultInjectingTransport) =>
        ended.2.Serves fault role later (answered ended.1)) holder
      (mapPeerError operation (.error error : Except RuntimeError α) transport) := by
  subst role
  apply Program.Follows.mono _ (follows_mapPeerError closed silent planEq)
  intro later ended holds
  rcases holds with ⟨sameTransport, stillParty, mapped, same, explains⟩
  rw [same, failed]
  exact FaultInjectingTransport.serves_failed (by rw [sameTransport])
    (by rw [sameTransport, planEq]) (stillParty.trans sameParty) explains

/-- A send through the faulty transport hands the frame over or leaves the link, and it leaves only
with the failure that the plan names for its role. -/
theorem follows_send {action : EndpointMachine.Action} {envelope : WireEnvelope}
    {machine : EndpointMachine} (reads : crates.ReadsBack) (plain : action.Plain)
    (performed : party.machine.perform action = some (.ok envelope, machine))
    (serves : transport.Serves fault role holder (.active party)) :
    Program.Follows (Holder.Calls crates (role == fault.role))
      (fun later (ended : Except RuntimeError Unit × FaultInjectingTransport) =>
        ended.2.Serves fault role later (Stage.sent party machine envelope.frame ended.1))
      holder (send crates envelope transport) := by
  apply follows_injecting (fun _ => rfl) serves
  intro transport roleEq planEq outbound inbound
  rcases written : encodeEnvelope crates envelope with error | encoded
  · have inner : innerSend crates envelope transport = .done (.error error, transport) := by
      rw [innerSend, written]
      rfl
    rw [bind_apply, inner, Program.done_bind]
    exact follows_mapped (fun _ => rfl) (by simp)
      (fun _ => transportFailure_encodeEnvelope written) rfl roleEq planEq
  · have inner : innerSend crates envelope transport =
        .call (.send encoded) fun (sent : Except Unit Unit) =>
          .done (sent.mapError fun _ => .transportClosed "memory", transport) := by
      rw [innerSend, written]
      simp only [bind_apply, get_apply, Program.done_bind, outbound, if_true]
      rfl
    have decodes := decodeEnvelope_of_plain reads performed plain written
    rw [bind_apply, inner, Program.call_bind]
    refine ⟨_, .send performed decodes, ?_⟩
    intro (sent : Except Unit Unit)
    rcases sent with ⟨⟨⟩⟩ | ⟨⟨⟩⟩
    · exact follows_mapped (fun _ => rfl) (fun _ => rfl) (fun live => (live rfl).elim) rfl roleEq
        planEq
    · exact FaultInjectingTransport.serves_active roleEq planEq outbound inbound

/-- A receive takes the frame at the head or finds out that the link has been left. -/
theorem follows_receive (serves : transport.Serves fault role holder (.active party)) :
    Program.Follows (Holder.Calls crates (role == fault.role))
      (fun later (ended : Except RuntimeError WireEnvelope × FaultInjectingTransport) =>
        ended.2.Serves fault role later (Stage.received party ended.1))
      holder (receive crates transport) := by
  apply follows_injecting (fun _ => rfl) serves
  intro transport roleEq planEq outbound inbound
  have inner : innerReceive crates transport =
      .call .recv fun (received : Except Unit (List UInt8)) =>
        .done (received.mapError (fun _ => .transportClosed "memory") >>= decodeEnvelope crates,
          transport) := by
    simp only [innerReceive, bind_apply, get_apply, Program.done_bind, inbound, if_true]
    change Program.call _ _ = Program.call _ _
    congr 1
    funext received
    rcases received with ⟨⟨⟩⟩ | encoded <;> rfl
  rw [bind_apply, inner, Program.call_bind]
  refine ⟨_, .recv party, ?_⟩
  intro (received : Except Unit (List UInt8))
  rcases received with ⟨⟨⟩⟩ | encoded
  · exact follows_mapped (fun _ => rfl) (fun _ => rfl) (fun live => (live rfl).elim) rfl roleEq
      planEq
  · change Program.Follows _ _ (Holder.received crates party (.ok encoded))
      (mapPeerError .receive (decodeEnvelope crates encoded) transport)
    rcases read : decodeEnvelope crates encoded with error | envelope
    · simp only [Holder.received, read]
      exact follows_mapped (fun _ => rfl) (by simp)
        (fun _ => transportFailure_decodeEnvelope read) rfl roleEq planEq
    · have passed : (mapPeerError .receive (.ok envelope : Except RuntimeError WireEnvelope))
          transport = .done (.ok envelope, transport) := rfl
      simp only [Holder.received, Holder.accepted, passed, Program.follows_done, read]
      simp only [Stage.received, Stage.accepted]
      split
      · exact FaultInjectingTransport.serves_active roleEq planEq outbound inbound
      · exact ⟨roleEq, planEq, by simp, by simp⟩

/-- The transport serves every call of the role that uses it. -/
theorem follows_handle (reads : crates.ReadsBack) {stage : Stage} {op : TransportOp}
    {after : op.Answer → Stage} (serves : transport.Serves fault role holder stage)
    (calls : Stage.Calls stage op after) :
    Program.Follows (Holder.Calls crates (role == fault.role))
      (fun later (ended : op.Answer × FaultInjectingTransport) =>
        ended.2.Serves fault role later (after ended.1))
      holder (handle crates op transport) := by
  cases calls with
  | send plain performed => exact follows_send reads plain performed serves
  | receive party => exact follows_receive serves
  | finish party role => exact serves
  | abort party error =>
      rcases serves.failed party error (.inl rfl) with ⟨sameParty, explains⟩
      apply Program.Follows.mono _ follows_innerAbort
      intro later ended holds
      rcases holds with ⟨stays, roleEq, planEq⟩
      refine ⟨roleEq.trans serves.role_eq, planEq.trans serves.plan_eq, by simp, ?_⟩
      intro endedParty endedError same
      rcases same with same | same <;> cases same
      rcases stays with same | same <;> subst later
      · exact ⟨sameParty, explains⟩
      · exact ⟨by simpa using sameParty, by simpa using explains⟩

end Handle

end Injecting

/-! ## What a thread returns -/

/-- What the report of a thread tells, by how the thread stood to the link at its end. -/
def Holder.Returned (fault : FaultPlan) (role : String) (holder : Holder)
    (report : ExecutionReport) : Prop :=
  ((holder.fate = .live ∨ holder.fate = .gone) ∧
      report.semanticTrace = holder.party.observed) ∨
    ∃ failure, holder.fate.Explains fault (role == fault.role) failure ∧
      report.semanticTrace = holder.party.observed ++ [.fault role failure] ∧
      report.completed = true ∧ report.successful = false ∧ report.failure = some failure

section Threads

variable {crates : Crates} {conversation : Conversation} {fault : FaultPlan} {role : String}
  {party : Party}

/-- A thread whose role keeps to its part does so on the link, and reports how it ended. -/
theorem follows_thread (reads : crates.ReadsBack) {program : RoleProgram}
    (follows : Program.Follows Stage.Calls (fun stage result => ∀ report, result = .ok report →
      conversation.HasRole role ∧ ∃ recorder,
        Recording.Reported (Recorder.TakesPart conversation role) (Recorder.Faulted role) stage
          report recorder) (.active party) program) :
    Program.Follows (Holder.Calls crates (role == fault.role))
      (fun holder result => ∀ report, result = .ok report →
        conversation.HasRole role ∧ holder.Returned fault role report)
      { party, fate := .live } (thread crates { role, plan := fault } program) := by
  have serves : FaultInjectingTransport.Serves fault role { party, fate := .live }
      (.active party) { role, plan := fault } :=
    FaultInjectingTransport.serves_active rfl rfl rfl rfl
  have carried := follows.implement
    (fun serves calls => Injecting.follows_handle reads serves calls) serves
  apply carried.bind
  intro holder ended holds
  rcases holds with ⟨stage, serves, reported⟩
  apply Injecting.follows_innerAbort.bind
  intro later dropped holds
  rcases holds with ⟨stays, _⟩
  intro report same
  rcases reported report same with ⟨hasRole, recorder, left, describes⟩
  refine ⟨hasRole, ?_⟩
  rcases left with takesPart | faulted
  · rcases serves.active _ takesPart.stage_eq with ⟨same, _⟩
    subst holder
    refine .inl ⟨?_, ?_⟩
    · rcases stays with same | same
      · exact .inl (by rw [same])
      · exact .inr (by rw [same]; rfl)
    · rcases stays with same | same <;> rw [same] <;> exact describes.trace_eq
  · rcases faulted.recorded with ⟨party, error, failure, stageEq, named, traced, failed⟩
    rcases serves.failed party error (.inr stageEq) with ⟨sameParty, explains⟩
    have laterExplains : later.Explains fault (role == fault.role) error := by
      rcases stays with same | same <;> simpa [same] using explains
    have laterParty : later.party = party := by
      rcases stays with same | same <;> simpa [same] using sameParty
    refine .inr ⟨failure, laterExplains failure named, ?_, ?_, ?_, ?_⟩
    · rw [describes.trace_eq, traced, laterParty]
    · exact Option.some.inj (describes.completed_eq.symm.trans faulted.complete)
    · exact Option.some.inj (describes.successful_eq.symm.trans faulted.unsuccessful)
    · exact Option.some.inj (describes.failure_eq.symm.trans failed)

end Threads

end Colloq
