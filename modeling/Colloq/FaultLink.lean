import Colloq.FaultHistory

/-!
# The link between the two threads of the fault demo

What the threads preserve in every interleaving: the parties and the channels are
a session of the conversation, and the flag and the dropped ends are what the
fates of the two threads say. So the histories that the threads report are
honest, and one is a prefix of the other.
-/

namespace Colloq

open TurnTaking (Side)

variable {crates : Crates} {conversation : Conversation} {fault : FaultPlan}

def Frame.isFault : Frame → Bool
  | .fault .. => true
  | _ => false

namespace MemoryLink

/-- The flag and the ends of a link, by the fates of the threads that hold them. -/
structure Agrees (fault : FaultPlan) (link : MemoryLink) (fate : Side → Fate) : Prop where
  present : ∀ side, fate side = .live → link.outbound side = true ∧ link.inbound side = true
  fired : link.fired = true ↔ ∃ side, fate side = .fired
  isFaulted : ∀ side, fate side = .fired → generateRole side = fault.role
  hung : ∀ side, fate side = .hung → fate side.other ≠ .live
  judged : ∀ side, fate side = .judged false →
    fate side.other ≠ .live ∧ fate side.other ≠ .fired

namespace Agrees

variable {link : MemoryLink} {fate : Side → Fate} {side : Side}

/-- The fate of one thread changes, with the flag and its ends of the link. -/
theorem moves {after : MemoryLink} {next : Fate} (agrees : link.Agrees fault fate)
    (outbound : after.outbound side.other = link.outbound side.other)
    (inbound : after.inbound side.other = link.inbound side.other)
    (present : next = .live → after.outbound side = true ∧ after.inbound side = true)
    (fired : after.fired = true ↔ link.fired = true ∨ next = .fired)
    (stays : fate side = .fired → next = .fired)
    (isFaulted : next = .fired → generateRole side = fault.role)
    (hung : next = .hung → fate side.other ≠ .live)
    (judged : next = .judged false → fate side.other ≠ .live ∧ link.fired = false)
    (wasLive : next = .live ∨ next = .fired → fate side = next ∨ fate side = .live) :
    after.Agrees fault (Function.update fate side next) := by
  rcases agrees with ⟨wasPresent, wasFired, wasFaulted, wasHung, wasJudged⟩
  rw [Side.forall_iff side] at wasPresent wasFaulted wasHung wasJudged
  rw [Side.exists_iff side] at wasFired
  rw [Side.other_other] at wasHung wasJudged
  have own : Function.update fate side next side = next := Function.update_self ..
  have others : Function.update fate side next side.other = fate side.other :=
    Function.update_of_ne side.other_ne ..
  constructor
  · rw [Side.forall_iff side, own, others, outbound, inbound]
    exact ⟨present, wasPresent.2⟩
  · rw [Side.exists_iff side, own, others]
    grind
  · rw [Side.forall_iff side, own, others]
    exact ⟨isFaulted, wasFaulted.2⟩
  · rw [Side.forall_iff side, Side.other_other, own, others]
    grind
  · rw [Side.forall_iff side, Side.other_other, own, others]
    grind

end Agrees

/-- The sides of the link in the order of the roles of the conversation. -/
structure Seats (conversation : Conversation) (seat : Side → Side) : Prop where
  sides : conversation.Sides (generateRole ∘ seat)
  bijective : Function.Bijective seat
  crossed : ∀ side, seat side.other = (seat side).other

/-- The queue holds the envelopes in a form that decodes to them. -/
abbrev Holds (crates : Crates) : List (List UInt8) → List WireEnvelope → Prop :=
  List.Forall₂ fun encoded envelope => decodeEnvelope crates encoded = .ok envelope

/-- The parties and the channels are a session of the conversation. -/
def Conveys (crates : Crates) (conversation : Conversation) (seat : Side → Side)
    (link : MemoryLink) (party : Side → Party) : Prop :=
  ∃ inbox, Session.Invariant crates conversation (generateRole ∘ seat)
      { party := party ∘ seat, inbox } ∧
    ∀ side, Holds crates ((link.queue ∘ seat) side) (inbox side)

namespace Conveys

variable {link : MemoryLink} {party : Side → Party} {seat : Side → Side} {side : Side}

theorem holds_update {queue : Side → List (List UInt8)} {inbox : Side → List WireEnvelope}
    {encoded : List (List UInt8)} {envelopes : List WireEnvelope}
    (holds : ∀ side, Holds crates (queue side) (inbox side))
    (changed : Holds crates encoded envelopes) (one : Side) :
    Holds crates (Function.update queue side encoded one)
      (Function.update inbox side envelopes one) := by
  by_cases same : one = side
  · subst one
    simpa using changed
  · simpa [same] using holds one

/-- A frame that is sent waits behind those that are on their way. -/
theorem sent {action : EndpointMachine.Action} {envelope : WireEnvelope}
    {machine : EndpointMachine} {encoded : List UInt8} (seats : Seats conversation seat)
    (conveys : link.Conveys crates conversation seat party)
    (performed : (party side).machine.perform action = some (.ok envelope, machine))
    (decodes : decodeEnvelope crates encoded = .ok envelope) :
    Conveys crates conversation seat
      { link with queue :=
          Function.update link.queue side.other (link.queue side.other ++ [encoded]) }
      (Function.update party side
        { machine, observed := (party side).observed ++ [envelope.frame] }) := by
  rcases conveys with ⟨inbox, invariant, holds⟩
  rcases seats.bijective.2 side with ⟨own, seated⟩
  subst side
  have emitted : Session.Step { party := party ∘ seat, inbox } _ := .emit own performed
  rw [Conveys, ← seats.crossed, Function.update_comp_eq_of_injective _ seats.bijective.1,
    Function.update_comp_eq_of_injective _ seats.bijective.1]
  refine ⟨_, invariant.step emitted, ?_⟩
  apply holds_update holds
  exact List.rel_append (holds own.other) (.cons decodes .nil)

/-- The frame at the head of a queue is accepted, since its author was at the state that the
receiver is at now. -/
theorem received {encoded : List UInt8} {rest : List (List UInt8)}
    (seats : Seats conversation seat) (conveys : link.Conveys crates conversation seat party)
    (queued : link.queue side = encoded :: rest) :
    ∃ machine frame, Holder.received crates (party side) (.ok encoded) =
        { party := { machine, observed := (party side).observed ++ [frame] }, fate := .live } ∧
      Conveys crates conversation seat
        { link with queue := Function.update link.queue side rest }
        (Function.update party side
          { machine, observed := (party side).observed ++ [frame] }) := by
  rcases conveys with ⟨inbox, invariant, holds⟩
  rcases seats.bijective.2 side with ⟨own, seated⟩
  subst side
  have held := holds own
  rw [Function.comp_apply, queued] at held
  generalize arrived : inbox own = envelopes at held
  cases held with
  | @cons _ envelope _ envelopes decodes heldRest =>
      rcases invariant.accept_head arrived with ⟨_, _, next, _, accepted⟩
      have delivered : Session.Step { party := party ∘ seat, inbox } _ :=
        .deliver own arrived accepted
      have accepts : (party (seat own)).machine.accept envelope =
          some (.ok envelope.frame, (party (seat own)).machine.moved next) := accepted
      refine ⟨(party (seat own)).machine.moved next, envelope.frame, ?_, ?_⟩
      · simp only [Holder.received, decodes, Holder.accepted, accepts]
      · rw [Conveys, Function.update_comp_eq_of_injective _ seats.bijective.1,
          Function.update_comp_eq_of_injective _ seats.bijective.1]
        exact ⟨_, invariant.step delivered, holds_update holds heldRest⟩

/-- A party observes what its peer sent, and peers do not send faults. -/
theorem isFault_eq_false (seats : Seats conversation seat)
    (conveys : link.Conveys crates conversation seat party) {frame : Frame}
    (member : frame ∈ (party side).observed) : frame.isFault = false := by
  rcases conveys with ⟨inbox, invariant, _⟩
  rcases seats.bijective.2 side with ⟨own, seated⟩
  subst side
  have ran := invariant.turnTaking.observed own
  rcases TurnTaking.Protocol.exists_next_of_run _ ran member with ⟨before, after, allowed⟩
  have wired := (Option.ite_none_right_eq_some.mp allowed).1
  cases frame with
  | fault => simp [Frame.author] at wired
  | _ => rfl

theorem observed_prefix (seats : Seats conversation seat)
    (conveys : link.Conveys crates conversation seat party) (side : Side) :
    (party side).observed <+: (party side.other).observed ∨
      (party side.other).observed <+: (party side).observed := by
  rcases conveys with ⟨inbox, invariant, _⟩
  rcases seats.bijective.2 side with ⟨own, seated⟩
  subst side
  rw [← seats.crossed]
  cases own with
  | left => exact invariant.turnTaking.observed_prefix
  | right => exact invariant.turnTaking.observed_prefix.symm

end Conveys

/-- How the link stands to the threads that share it. -/
structure Shared (crates : Crates) (conversation : Conversation) (fault : FaultPlan)
    (seat : Side → Side) (link : MemoryLink) (holder : Side → Holder) : Prop where
  agrees : link.Agrees fault fun side => (holder side).fate
  conveys : link.Conveys crates conversation seat (Holder.party ∘ holder)

namespace Shared

variable {link : MemoryLink} {holder : Side → Holder} {seat : Side → Side} {side : Side}

theorem update {after : MemoryLink} {next : Holder}
    (agrees : after.Agrees fault
      (Function.update (fun side => (holder side).fate) side next.fate))
    (conveys : after.Conveys crates conversation seat
      (Function.update (Holder.party ∘ holder) side next.party)) :
    after.Shared crates conversation fault seat (Function.update holder side next) := by
  constructor
  · simpa only [Function.apply_update fun _ => Holder.fate] using agrees
  · rw [Function.comp_update]
    exact conveys

/-- A thread that only changes its fate, or its ends, leaves the session as it is. -/
theorem rest {after : MemoryLink} {next : Holder}
    (shared : link.Shared crates conversation fault seat holder)
    (agrees : after.Agrees fault
      (Function.update (fun side => (holder side).fate) side next.fate))
    (sameQueue : after.queue = link.queue) (sameParty : next.party = (holder side).party) :
    after.Shared crates conversation fault seat (Function.update holder side next) := by
  apply update agrees
  rw [sameParty, ← Function.comp_apply (f := Holder.party), Function.update_eq_self, Conveys,
    sameQueue]
  exact shared.conveys

/-- Dropping an end is leaving the link, for a thread that is still live. -/
theorem leaves {after : MemoryLink} (shared : link.Shared crates conversation fault seat holder)
    (outbound : after.outbound side.other = link.outbound side.other)
    (inbound : after.inbound side.other = link.inbound side.other)
    (sameQueue : after.queue = link.queue) (sameFired : after.fired = link.fired) :
    after.Shared crates conversation fault seat
      (Function.update holder side (holder side).leave) := by
  have notFired := shared.agrees.fired
  rw [Side.exists_iff side] at notFired
  have isFaulted := shared.agrees.isFaulted side
  have hung := shared.agrees.hung side
  have judged := shared.agrees.judged side
  apply shared.rest _ sameQueue (Holder.party_leave _)
  rcases (holder side).fate_leave with ⟨notLive, same⟩ | ⟨wasLive, same⟩
  · rw [same]
    apply shared.agrees.moves outbound inbound <;> grind
  · rw [same]
    apply shared.agrees.moves outbound inbound <;> simp [sameFired, wasLive]

/-- A thread that stays live keeps its ends and the flag. -/
theorem agrees_live {after : MemoryLink} {own : Party}
    (shared : link.Shared crates conversation fault seat holder)
    (here : holder side = { party := own, fate := .live })
    (sameOutbound : after.outbound = link.outbound) (sameInbound : after.inbound = link.inbound)
    (sameFired : after.fired = link.fired) :
    after.Agrees fault (Function.update (fun side => (holder side).fate) side .live) := by
  have present := shared.agrees.present side (by rw [here])
  apply shared.agrees.moves <;> simp_all

/-- A thread that meets a closed channel was left by the other one. -/
theorem agrees_hung {own : Party} (shared : link.Shared crates conversation fault seat holder)
    (here : holder side = { party := own, fate := .live })
    (closed : link.inbound side.other = false ∨ link.outbound side.other = false) :
    link.Agrees fault (Function.update (fun side => (holder side).fate) side .hung) := by
  have present := shared.agrees.present side.other
  apply shared.agrees.moves <;> simp_all
  grind

/-- The thread of the faulted role sets the flag as it fires. -/
theorem agrees_fired {own : Party} (shared : link.Shared crates conversation fault seat holder)
    (here : holder side = { party := own, fate := .live })
    (isFaulted : generateRole side = fault.role) :
    Agrees fault { link with fired := true }
      (Function.update (fun side => (holder side).fate) side .fired) := by
  apply shared.agrees.moves <;> simp_all

/-- Only a thread that has met a closed channel changes as it reads the flag. -/
theorem judges (shared : link.Shared crates conversation fault seat holder) :
    link.Shared crates conversation fault seat
      (Function.update holder side ((holder side).judge link.fired)) := by
  by_cases hung : (holder side).fate = .hung
  · have judged : (holder side).judge link.fired =
        ⟨(holder side).party, .judged link.fired⟩ := by
      rw [Holder.judge, hung]
    rw [judged]
    refine shared.rest ?_ rfl rfl
    have otherNotLive := shared.agrees.hung side hung
    apply shared.agrees.moves <;> simp_all
  · have unchanged : (holder side).judge link.fired = holder side := by
      rw [Holder.judge]
      split
      · contradiction
      · rfl
    rw [unchanged, Function.update_eq_self]
    exact shared

/-- A step of either thread keeps what the two threads share. -/
theorem step (seats : Seats conversation seat)
    (shared : link.Shared crates conversation fault seat holder) {op : LinkOp}
    {next : op.Answer → Holder} {answer : op.Answer} {after : MemoryLink}
    (calls : Holder.Calls crates (generateRole side == fault.role) (holder side) op next)
    (answered : MemoryLink.Answers link side op answer after) :
    after.Shared crates conversation fault seat (Function.update holder side (next answer)) := by
  generalize here : holder side = own at calls
  cases calls with
  | loadFired =>
      cases answered
      subst own
      exact shared.judges
  | storeFired party isFaulted =>
      cases answered
      exact shared.rest (shared.agrees_fired here (by simpa using isFaulted)) rfl (by rw [here])
  | @send party _ _ _ _ performed decodes =>
      cases answered with
      | sent _ open_ =>
          apply update
          · exact shared.agrees_live here rfl rfl rfl
          · have isParty : (Holder.party ∘ holder) side = party := congrArg Holder.party here
            rw [← isParty] at performed
            have conveys := shared.conveys.sent seats performed decodes
            rw [isParty] at conveys
            exact conveys
      | unsent _ closed =>
          exact shared.rest (shared.agrees_hung here (.inl closed)) rfl (by rw [here]; rfl)
  | recv party =>
      cases answered with
      | received queued =>
          rcases shared.conveys.received seats queued with ⟨machine, frame, same, conveys⟩
          have isParty : (Holder.party ∘ holder) side = party := congrArg Holder.party here
          rw [isParty] at same conveys
          rw [same]
          apply update _ conveys
          exact shared.agrees_live here rfl rfl rfl
      | unreceived empty closed =>
          exact shared.rest (shared.agrees_hung here (.inr closed)) rfl (by rw [here]; rfl)
  | takeOutbound =>
      cases answered
      subst own
      exact shared.leaves (by simp) rfl rfl rfl
  | takeInbound =>
      cases answered
      subst own
      exact shared.leaves rfl (by simp) rfl rfl

end Shared

theorem agrees_fresh : MemoryLink.fresh.Agrees fault fun _ => .live := by
  constructor <;> simp [fresh]

theorem exists_seats (compilable : conversation.Compilable)
    (client : conversation.HasRole "client") (server : conversation.HasRole "server") :
    ∃ seat, Seats conversation seat := by
  rcases List.length_eq_two.mp compilable.twoRoles with ⟨first, second, roles⟩
  have wellFormed := compilable.toWellFormed
  simp only [Conversation.HasRole, roles, List.map_cons, List.map_nil, List.mem_pair]
    at client server
  rcases client with client | client <;> rcases server with server | server
  · simp [← client] at server
  · refine ⟨id, ⟨wellFormed, ?_⟩, Function.bijective_id, fun _ => rfl⟩
    simp [roles, generateRole, client, server]
  · refine ⟨Side.other, ⟨wellFormed, ?_⟩, ?_, fun _ => rfl⟩
    · simp [roles, generateRole, Side.other, client, server]
    · exact Function.Involutive.bijective Side.other_other
  · simp [← client] at server

theorem shared_fresh {seat : Side → Side} (compilable : conversation.Compilable)
    (seats : Seats conversation seat) :
    MemoryLink.fresh.Shared crates conversation fault seat fun side =>
      { party := { machine := conversation.initialMachine crates (generateRole side)
                   observed := [] }
        fate := .live } := by
  refine ⟨agrees_fresh, fun _ => [], ?_, fun _ => .nil⟩
  exact Session.invariant_start (compilable.machines (generateRole ∘ seat) seats.sides.roles)

end MemoryLink

/-! ## The two threads -/

open Recorder (TakesPart Faulted)
open Recording (Reported)

/-- So does a role, if its body does. -/
theorem follows_runRole (compilable : conversation.Compilable) {role : String}
    {body : Recording ExecutionReport}
    (conducted : ∀ {stage recorder}, TakesPart conversation role stage recorder →
      Program.Stateful.Ensures Stage.Calls
        (Reported (TakesPart conversation role) (Faulted role)) stage recorder body) :
    Program.Follows Stage.Calls (fun stage result => ∀ report, result = .ok report →
        conversation.HasRole role ∧ ∃ recorder,
          Reported (TakesPart conversation role) (Faulted role) stage report recorder)
      (.active { machine := conversation.initialMachine crates role, observed := [] })
      (runRole (conversation.preparedPlan crates) role body) := by
  rcases created : EndpointMachine.fromPlan (conversation.preparedPlan crates) role with
    error | machine
  · simp [runRole, created]
  · rcases Conversation.fromPlan_preparedPlan_eq_ok_iff.mp created with ⟨hasRole, initial⟩
    subst initial
    simp only [runRole, created]
    have takesPart : TakesPart conversation role
        (.active { machine := conversation.initialMachine crates role, observed := [] })
        { machine := conversation.initialMachine crates role, trace := [] } :=
      ⟨rfl, compilable.executes_initialMachine hasRole, rfl⟩
    apply (conducted takesPart).result.mono
    intro stage result reported report same
    exact ⟨hasRole, reported report same⟩

/-- Each thread of the demo follows the calls of its role, and a report tells what it held when it
returned. -/
theorem follows_faultThreads (compilable : conversation.Compilable) (reads : crates.ReadsBack)
    (prompt : String) (tokenLimit : ℕ) (cancelAfter : Option ℕ) (fault : FaultPlan) (fuel : ℕ)
    (side : Side) :
    Program.Follows (Holder.Calls crates (generateRole side == fault.role))
      (fun holder result => ∀ report, result = .ok report →
        conversation.HasRole (generateRole side) ∧
          holder.Returned fault (generateRole side) report)
      { party := { machine := conversation.initialMachine crates (generateRole side)
                   observed := [] }
        fate := .live }
      ((faultThreads crates (conversation.preparedPlan crates) prompt tokenLimit cancelAfter fault
        fuel).program side) := by
  apply @follows_thread crates conversation _ _ _ reads
  cases side with
  | left =>
      dsimp only
      rw [runGenerateClientPlan]
      split_ifs
      · simp
      · apply follows_runRole compilable
        intro stage recorder takesPart
        exact Recording.conducts_calls.ensures_clientBody crates "memory" prompt cancelAfter fuel
          takesPart
  | right =>
      apply follows_runRole compilable
      intro stage recorder takesPart
      exact Recording.conducts_calls.ensures_serverBody crates "memory" tokenLimit fuel takesPart

/-! ## The histories of the two roles -/

/-- The report of the thread at one side of the link. -/
def DemoReport.side (report : DemoReport) : Side → ExecutionReport
  | .left => report.client
  | .right => report.server

/-- The faulted role, at `side`, ended in the planned failure; the other one saw no fault or the
one that the plan lets it see; and neither saw a frame that the other did not have before it. -/
structure DemoReport.Honest (fault : FaultPlan) (side : Side) (report : DemoReport) : Prop where
  isFaulted : generateRole side = fault.role
  completed : (report.side side).completed = true
  unsuccessful : (report.side side).successful = false
  failure_eq : (report.side side).failure = some fault.failure
  ends : ∃ before, (report.side side).semanticTrace =
      before ++ [.fault fault.role fault.failure] ∧
    ∀ frame ∈ before, frame.isFault = false
  peer : (∀ frame ∈ (report.side side.other).semanticTrace, frame.isFault = false) ∨
    ∃ before, (report.side side.other).semanticTrace = before ++
        [.fault (generateRole side.other) (fault.peerFailure.getD "transport.closed")] ∧
      ∀ frame ∈ before, frame.isFault = false
  compatible :
    (report.client.semanticTrace.filter (!·.isFault)) <+:
        (report.server.semanticTrace.filter (!·.isFault)) ∨
      (report.server.semanticTrace.filter (!·.isFault)) <+:
        (report.client.semanticTrace.filter (!·.isFault))

theorem generateRole_injective : Function.Injective generateRole := by
  intro one two same
  cases one <;> cases two <;> simp_all [generateRole]

/-- Without its faults, the trace of a report is what the party of the session observed. -/
theorem Holder.Returned.filter_eq {role : String} {holder : Holder} {report : ExecutionReport}
    (returned : holder.Returned fault role report)
    (noFault : ∀ frame ∈ holder.party.observed, frame.isFault = false) :
    report.semanticTrace.filter (!·.isFault) = holder.party.observed := by
  have kept : holder.party.observed.filter (!·.isFault) = holder.party.observed := by
    apply List.filter_eq_self.mpr
    intro frame member
    rw [noFault frame member]
    rfl
  rcases returned with ⟨_, traced⟩ | ⟨failure, _, traced, _⟩
  · rw [traced, kept]
  · rw [traced, List.filter_append, kept]
    simp [Frame.isFault]

/-- Once the fault has fired, the reports of the two threads are honest. -/
theorem MemoryLink.Shared.honest {link : MemoryLink} {holder : Side → Holder}
    {seat : Side → Side} {report : DemoReport}
    (shared : link.Shared crates conversation fault seat holder)
    (seats : Seats conversation seat) (fired : link.fired = true)
    (returned : ∀ side, (holder side).Returned fault (generateRole side) (report.side side)) :
    ∃ side, report.Honest fault side := by
  have noFault : ∀ side, ∀ frame ∈ (holder side).party.observed, frame.isFault = false :=
    fun side frame member => shared.conveys.isFault_eq_false seats member
  rcases shared.agrees.fired.mp fired with ⟨side, hasFired⟩
  have isFaulted := shared.agrees.isFaulted side hasFired
  have otherNot : (generateRole side.other == fault.role) = false := by
    rw [← isFaulted, beq_eq_false_iff_ne]
    intro same
    exact side.other_ne (generateRole_injective same)
  refine ⟨side, ?_⟩
  rcases returned side with
    ⟨still, _⟩ | ⟨failure, explains, traced, completed, unsuccessful, failed⟩
  · simp [hasFired] at still
  · rw [hasFired] at explains
    have planned : failure = fault.failure := explains
    subst failure
    refine ⟨isFaulted, completed, unsuccessful, failed, ?_, ?_, ?_⟩
    · rw [← isFaulted]
      exact ⟨_, traced, noFault side⟩
    · rcases returned side.other with ⟨_, traced⟩ | ⟨failure, explains, traced, _⟩
      · left
        rw [traced]
        exact noFault side.other
      · right
        refine ⟨_, ?_, noFault side.other⟩
        rw [traced]
        congr
        -- The peer met the closed link, and the flag was set before the link was closed.
        rw [otherNot] at explains
        rcases fate : (holder side.other).fate with _ | _ | _ | noticed | _
        case live | gone => simp [fate, Fate.Explains] at explains
        case hung => simp [fate, Fate.Explains] at explains
        case fired =>
            have same := shared.agrees.isFaulted side.other fate
            simp [same] at otherNot
        case judged =>
            cases noticed with
            | true => simpa [fate, Fate.Explains] using explains
            | false =>
                have notFired := (shared.agrees.judged side.other fate).2
                rw [Side.other_other] at notFired
                contradiction
    · have filtered : ∀ one, (report.side one).semanticTrace.filter (!·.isFault) =
          (holder one).party.observed := fun one => (returned one).filter_eq (noFault one)
      have compatible := shared.conveys.observed_prefix seats .left
      simp only [Function.comp_apply, ← filtered] at compatible
      exact compatible

/-- Every report of the fault demo, wherever the fault struck, has the planned failure at the role
that the plan faults, and two histories of which one continues the other. -/
theorem injected_faults_leave_honest_histories (crates : Crates) (reads : crates.ReadsBack)
    (conversation : Conversation) (plan : ColloqPlan)
    (compiled : ColloqPlan.compile crates conversation = .ok plan) :
    ∃ prepared, PreparedPlan.compile crates conversation = .ok prepared ∧
      ∀ prompt tokenLimit cancelAfter fault fuel report,
        FaultDemoReturns crates prepared prompt tokenLimit cancelAfter fault fuel report →
          ∃ side, report.Honest fault side := by
  rcases ColloqPlan.compile_eq_ok_iff.mp compiled with ⟨compilable, _⟩
  refine ⟨conversation.preparedPlan crates,
    Conversation.preparedPlan_compile_eq_ok_iff.mpr ⟨compilable, rfl⟩, ?_⟩
  intro prompt tokenLimit cancelAfter fault fuel report returned
  cases returned with
  | @joined last client server checked steps clientReturned serverReturned fired =>
      let report := demoReport "memory+fault" client server
      have ended : ∀ side, last.program side = .done (.ok (report.side side)) := by
        intro side
        cases side with
        | left => exact clientReturned
        | right => exact serverReturned
      have follow := follows_faultThreads compilable reads prompt tokenLimit cancelAfter fault
        fuel
      have hasRole : ∀ side, conversation.HasRole (generateRole side) := by
        intro side
        rcases Program.follows_of_steps follow steps with ⟨holder, follows⟩
        have here := follows side
        rw [ended side] at here
        exact (here _ rfl).1
      rcases MemoryLink.exists_seats compilable (hasRole .left) (hasRole .right) with
        ⟨seat, seats⟩
      rcases Program.invariant_of_steps
        (fun shared calls answered => shared.step seats calls answered)
        (MemoryLink.shared_fresh compilable seats) follow steps with ⟨holder, shared, follows⟩
      apply shared.honest seats fired
      intro side
      have here := follows side
      rw [ended side] at here
      exact (here _ rfl).2

/-! ## A prompt that is never sent -/

/-- The client prompts the server once. -/
def Conversation.prompting : Conversation where
  colloqConversation := "0.1.0"
  module := { id := "prompting" }
  roles := [{ id := "client" }, { id := "server" }]
  types := [{ id := "prompt", definition := {("kind", .null)} }]
  failures := [{ id := "transport.closed" }]
  initial := "prompt"
  states :=
    [.send "prompt" "client" "server" "prompt" "done" none {("transport.closed", "closed")},
      .end "done", .fail "closed" "transport.closed"]

theorem Conversation.compilable_prompting : prompting.Compilable where
  toWellFormed := (validate_eq_ok_iff prompting).mp rfl
  module_valid := by decide
  role_valid := by decide
  state_valid := by decide
  transitionCount_le := by decide

/-- The first send of the client fails. -/
def promptFault : FaultPlan where
  role := "client"
  operation := .send
  occurrence := 1
  failure := "transport.closed"

open Program (Path)

theorem faultDemoReturns_prompting (crates : Crates) :
    ∃ report, FaultDemoReturns crates (Conversation.prompting.preparedPlan crates) "hello" 1 none
      promptFault 1 report := by
  let threads := faultThreads crates (Conversation.prompting.preparedPlan crates) "hello" 1 none
    promptFault 1
  have client : ∃ report, Path (threads.program .left)
      [⟨.loadFired, false⟩, ⟨.storeFired, ()⟩, ⟨.takeOutbound, ()⟩, ⟨.takeInbound, ()⟩]
      (.done (.ok report)) :=
    ⟨_, .call (.call (.call (.call (.refl _))))⟩
  have server : ∃ report, Path (threads.program .right)
      [⟨.loadFired, true⟩, ⟨.recv, Except.error ()⟩, ⟨.loadFired, true⟩, ⟨.takeOutbound, ()⟩,
        ⟨.takeInbound, ()⟩] (.done (.ok report)) :=
    ⟨_, .call (.call (.call (.call (.call (.refl _)))))⟩
  rcases client with ⟨clientReport, clientPath⟩
  rcases server with ⟨serverReport, serverPath⟩
  have clientSteps : Relation.ReflTransGen (Program.Step MemoryLink.Answers) threads _ :=
    Program.steps_of_path .left clientPath (.call (.loadFired _ _) (.call (.storeFired _ _)
      (.call (.takeOutbound _ _) (.call (.takeInbound _ _) (.refl _)))))
  rw [← Function.update_of_ne (show Side.right ≠ .left by simp)
    (.done (.ok clientReport)) threads.program] at serverPath
  have steps := clientSteps.trans (Program.steps_of_path .right serverPath
    (.call (.loadFired _ _) (.call (.unreceived rfl rfl) (.call (.loadFired _ _)
      (.call (.takeOutbound _ _) (.call (.takeInbound _ _) (.refl _)))))))
  exact ⟨_, .joined rfl steps rfl rfl rfl⟩

theorem injected_faults_leave_honest_histories_prompting :
    ∃ prepared, PreparedPlan.compile .reference .prompting = .ok prepared ∧
      (∀ prompt tokenLimit cancelAfter fault fuel report,
        FaultDemoReturns .reference prepared prompt tokenLimit cancelAfter fault fuel report →
          ∃ side, report.Honest fault side) ∧
      ∃ report, FaultDemoReturns .reference prepared "hello" 1 none promptFault 1 report := by
  have compiled := ColloqPlan.compile_eq_ok_iff.mpr
    ⟨Conversation.compilable_prompting, Eq.refl (Conversation.prompting.compiledPlan .reference)⟩
  rcases injected_faults_leave_honest_histories .reference Crates.reference_lossless.readsBack
    .prompting _ compiled with ⟨prepared, built, honest⟩
  rcases Conversation.preparedPlan_compile_eq_ok_iff.mp built with ⟨_, same⟩
  subst prepared
  exact ⟨_, built, honest, faultDemoReturns_prompting .reference⟩

end Colloq
