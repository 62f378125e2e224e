import Colloq.Delivery
import Colloq.FaultLink

/-!
# No interleaving of a demo gets stuck

The two roles hand a baton over to each other: a role receives only when it is the
turn of the other one. So the threads of the memory demo and of the fault demo never
both wait, and a thread that waits for one that has left is told so. This holds for
every plan, also for one on which the roles make no sense of each other.
-/

namespace Colloq

open Baton (Turn)
open Program (Discipline Follows Step)
open Program.Stateful (Ensures)
open TurnTaking (Side)

/-! ## The roles take turns -/

namespace TransportOp

def sent (envelope : WireEnvelope) : Except RuntimeError Unit → Option Turn
  | .ok () => some (.sent Frame.handsOver envelope.frame)
  | .error _ => none

def received : Except RuntimeError WireEnvelope → Option Turn
  | .ok envelope => some (.received Frame.handsOver envelope.frame)
  | .error _ => none

/-- The calls of a role by the turn it knows of, until a call fails: it sends when it is its turn,
what the peer reads as it was sent, and it receives when it is not. -/
inductive TakesTurns (crates : Crates) (codec : EnvelopeCodec) :
    Discipline TransportOp TransportOp.Answer (Option Turn) where
  | send {envelope : WireEnvelope}
      (passes : ∀ encoded, codec.encode crates envelope = .ok encoded →
        codec.decode crates encoded = .ok envelope) :
      TakesTurns crates codec (some .mine) (.send envelope) (sent envelope)
  | receive : TakesTurns crates codec (some .theirs) .receive received
  | finish (turn : Option Turn) (role : String) :
      TakesTurns crates codec turn (.finish role) fun _ => turn
  | abort : TakesTurns crates codec none .abort fun _ => none

end TransportOp

theorem EndpointMachine.frame_eq_of_accept {machine after : EndpointMachine}
    {envelope : WireEnvelope} {frame : Frame}
    (accepted : machine.accept envelope = some (.ok frame, after)) : frame = envelope.frame := by
  unfold accept at accepted
  split at accepted
  · cases accepted
  · split at accepted
    · cases accepted
    · split at accepted <;> cases accepted
      rfl

namespace Recording

open TransportOp (TakesTurns)

variable {crates : Crates} {plan : PreparedPlan} {encoding : WireEncoding}

/-- A role that no call has failed. -/
def InTurn (plan : PreparedPlan) (turn : Baton.Turn) (known : Option Baton.Turn)
    (recorder : Recorder) : Prop :=
  known = some turn ∧ recorder.machine.Runs plan

/-- A role that has failed neither sends nor receives. -/
def OutOfTurn (known : Option Baton.Turn) (_ : Recorder) : Prop := known = none

/-- The roles take turns: who sends has the turn, and who receives has not. -/
theorem alternates_takesTurns (sound : plan.Sound) (reads : crates.ReadsBack) :
    Alternates (TakesTurns crates (.forPlan encoding plan)) (InTurn plan) OutOfTurn where
  send := by
    intro known recorder action envelope machine inTurn plain performed
    rcases inTurn with ⟨same, runs⟩
    subst same
    have carries := sound.carries_of_perform runs performed
    have moved := runs.step (.perform performed)
    apply follows_sendAndRecord (.send fun encoded written =>
      carries.decode_of_plain reads performed plain sound written)
    · intro _ same
      rw [← Except.ok.inj same]
      refine ⟨?_, moved⟩
      simp [TransportOp.sent, Baton.Turn.sent, EndpointMachine.handsOver_of_perform performed]
    · intro _ _ _ same
      simp at same
    · intro error failure named
      refine ⟨_, .abort, ?_, by simp, by simp⟩
      intro _ _ _ _ same
      rw [← Except.ok.inj same]
      rfl
  receive := by
    intro known recorder inTurn
    rcases inTurn with ⟨same, runs⟩
    subst same
    apply follows_receiveAndRecord .receive
    · intro envelope
      refine ⟨?_, by simp, by simp⟩
      intro frame machine accepted _ same
      rw [← Except.ok.inj same]
      refine ⟨?_, runs.step (.accept accepted)⟩
      rw [TransportOp.received, EndpointMachine.frame_eq_of_accept accepted]
    · intro _ _ _ same
      simp at same
    · intro error failure named
      refine ⟨_, .abort, ?_, by simp, by simp⟩
      intro _ _ _ _ same
      rw [← Except.ok.inj same]
      rfl

/-- At its end a role neither sends nor receives. -/
theorem takesTurns_report {codec : EnvelopeCodec} {known : Option Baton.Turn} {recorder : Recorder}
    {transport : String} {tokens : List UInt64} :
    Ensures (TakesTurns crates codec) (fun _ _ _ => True) known recorder
      (report crates transport tokens) :=
  ensures_report.mono fun _ _ _ _ => trivial

theorem takesTurns_conclude {codec : EnvelopeCodec} {known : Option Baton.Turn}
    {recorder : Recorder}
    {transport : String} {tokens : List UInt64} :
    Ensures (TakesTurns crates codec) (fun _ _ _ => True) known recorder
      (conclude crates transport tokens) := by
  apply ensures_inspect.bind
  rintro _ successful _ ⟨rfl, rfl, _⟩
  cases successful with
  | false => exact takesTurns_report
  | true =>
      apply Ensures.get_bind
      refine Program.Stateful.Follows.ask_bind (.finish _ _) fun answer => ?_
      apply ensures_ofExcept_bind
      intro _ _
      exact takesTurns_report

end Recording

/-- The client begins. -/
def firstTurn (side : Side) : Turn := if side = .left then .mine else .theirs

/-- The roles of a plan take turns, whatever they answer each other. -/
theorem takesTurns_roles {crates : Crates} {plan : PreparedPlan} (built : plan.Built crates)
    (reads : crates.ReadsBack) (encoding : WireEncoding) (transport prompt : String)
    (tokenLimit : ℕ) (cancelAfter : Option ℕ) (fuel : ℕ) (side : Side) :
    Follows (TransportOp.TakesTurns crates (.forPlan encoding plan)) (fun _ _ => True)
      (some (firstTurn side)) (Side.pair
        (runGenerateClientPlan crates plan transport prompt cancelAfter fuel)
        (runGenerateServerPlan crates plan transport tokenLimit fuel) side) := by
  have alternates := @Recording.alternates_takesTurns crates plan encoding built.sound reads
  have runs : ∀ role (body : Recording ExecutionReport) turn,
      (∀ recorder, recorder.machine.Runs plan →
        Ensures (TransportOp.TakesTurns crates (.forPlan encoding plan)) (fun _ _ _ => True)
          (some turn) recorder body) →
      Follows (TransportOp.TakesTurns crates (.forPlan encoding plan)) (fun _ _ => True)
        (some turn) (runRole plan role body) := by
    intro role body turn ensures
    rw [runRole]
    rcases created : EndpointMachine.fromPlan plan role with error | machine
    · trivial
    · exact (ensures _ (EndpointMachine.runs_of_fromPlan created)).result.mono fun _ _ _ => trivial
  cases side with
  | left =>
      rw [Side.pair_left, runGenerateClientPlan]
      split_ifs
      · trivial
      · apply runs
        intro recorder runs
        exact alternates.ensures_clientBody crates transport
          (fun _ => Recording.takesTurns_conclude)
          (fun _ => Recording.takesTurns_report) prompt cancelAfter fuel ⟨rfl, runs⟩
  | right =>
      rw [Side.pair_right, runGenerateServerPlan]
      apply runs
      intro recorder runs
      exact alternates.ensures_serverBody crates transport (fun _ => Recording.takesTurns_conclude)
        (fun _ => Recording.takesTurns_report) tokenLimit fuel ⟨rfl, runs⟩

/-! ## The threads on a link -/

instance : Fintype Side where
  elems := {.left, .right}
  complete side := by cases side <;> simp

/-- What a thread knows of its turn, and whether its outbound end is there. -/
structure Grip where
  turn : Turn
  outbound : Bool

/-- The frame that is read from these bytes hands the turn over. -/
def EnvelopeCodec.handsOver (crates : Crates) (codec : EnvelopeCodec) (encoded : List UInt8) :
    Bool :=
  match codec.decode crates encoded with
  | .ok envelope => envelope.frame.handsOver
  | .error _ => false

namespace Grip

variable (handsOver : List UInt8 → Bool)

def sent (grip : Grip) (encoded : List UInt8) : Except Unit Unit → Grip
  | .ok () => { grip with turn := .sent handsOver encoded }
  | .error () => grip

def received (grip : Grip) : Except Unit (List UInt8) → Grip
  | .ok encoded => { grip with turn := .received handsOver encoded }
  | .error () => grip

/-- The steps of a thread: it sends when it is its turn, and receives when it is not, while its
outbound end is there. -/
inductive Calls : Discipline LinkOp LinkOp.Answer Grip where
  | loadFired (grip : Grip) : Calls grip .loadFired fun _ => grip
  | storeFired (grip : Grip) : Calls grip .storeFired fun _ => grip
  | send {grip : Grip} (encoded : List UInt8) (holds : grip.turn = .mine) :
      Calls grip (.send encoded) (grip.sent handsOver encoded)
  | recv {grip : Grip} (waits : grip.turn = .theirs) (isOpen : grip.outbound = true) :
      Calls grip .recv (grip.received handsOver)
  | takeOutbound (grip : Grip) :
      Calls grip .takeOutbound fun _ => { grip with outbound := false }
  | takeInbound (grip : Grip) : Calls grip .takeInbound fun _ => grip

end Grip

namespace MemoryLink

variable {handsOver : List UInt8 → Bool} {link after : MemoryLink} {grip : Side → Grip}

/-- The turn is there once, and the outbound ends are as the threads know them. -/
structure Balanced (handsOver : List UInt8 → Bool) (link : MemoryLink) (grip : Side → Grip) :
    Prop where
  unique : Baton.Unique handsOver (fun side => (grip side).turn) link.queue
  outbound : ∀ side, link.outbound side = (grip side).outbound

namespace Balanced

variable {side : Side} {next : Grip}

/-- A thread that keeps its outbound end has sent or received. -/
theorem update (balanced : link.Balanced handsOver grip)
    (unique : Baton.Unique handsOver (Function.update (fun side => (grip side).turn) side next.turn)
      after.queue)
    (outbound : after.outbound = link.outbound) (same : next.outbound = (grip side).outbound) :
    after.Balanced handsOver (Function.update grip side next) where
  unique := by simpa only [Function.apply_update fun _ => Grip.turn] using unique
  outbound := by
    intro one
    rw [outbound, balanced.outbound one]
    by_cases here : one = side
    · subst one
      simp [same]
    · simp [here]

/-- A step of either thread keeps the baton unique among the turns and the frames on their way. -/
theorem step (balanced : link.Balanced handsOver grip) {op : LinkOp} {next : op.Answer → Grip}
    {answer : op.Answer} (calls : Grip.Calls handsOver (grip side) op next)
    (answered : Answers link side op answer after) :
    after.Balanced handsOver (Function.update grip side (next answer)) := by
  generalize here : grip side = own at calls
  cases calls with
  | loadFired =>
      cases answered
      subst own
      rwa [Function.update_eq_self]
  | storeFired =>
      cases answered
      subst own
      rw [Function.update_eq_self]
      exact ⟨balanced.unique, balanced.outbound⟩
  | send encoded holds =>
      subst own
      cases answered with
      | sent =>
          refine balanced.update ?_ rfl rfl
          exact balanced.unique.sent holds
      | unsent =>
          rw [Grip.sent, Function.update_eq_self]
          exact balanced
  | recv waits isOpen =>
      subst own
      cases answered with
      | received queued =>
          refine balanced.update ?_ rfl rfl
          exact balanced.unique.received waits queued
      | unreceived =>
          rw [Grip.received, Function.update_eq_self]
          exact balanced
  | takeOutbound =>
      cases answered
      subst own
      refine ⟨?_, ?_⟩
      · rw [show (fun one => (Function.update grip side
            { grip side with outbound := false } one).turn) = fun one => (grip one).turn from ?_]
        · exact balanced.unique
        · funext one
          by_cases same : one = side
          · subst one
            simp
          · simp [same]
      · intro one
        by_cases same : one = side
        · subst one
          simp
        · simpa [same] using balanced.outbound one
  | takeInbound =>
      cases answered
      subst own
      rw [Function.update_eq_self]
      exact ⟨balanced.unique, balanced.outbound⟩

theorem fresh : MemoryLink.fresh.Balanced handsOver fun side => ⟨firstTurn side, true⟩ where
  unique := .start Side.left
  outbound _ := rfl

end Balanced

/-- A call that is never answered waits for a message of a peer that is still there. -/
theorem waits_of_stuck {network : FaultNetwork} {side : Side} {op : LinkOp}
    {next : op.Answer → ThreadProgram} {known : Grip} {answered : op.Answer → Grip}
    (stuck : network.Stuck Answers) (calls : network.program side = .call op next)
    (allowed : Grip.Calls handsOver known op answered) :
    known.turn = .theirs ∧ network.environment.queue side = [] ∧
      network.environment.outbound side.other = true := by
  cases allowed with
  | loadFired => exact (stuck _ (.call calls (.loadFired _ _))).elim
  | storeFired => exact (stuck _ (.call calls (.storeFired _ _))).elim
  | send encoded =>
      cases isOpen : network.environment.inbound side.other with
      | true => exact (stuck _ (.call calls (.sent encoded isOpen))).elim
      | false => exact (stuck _ (.call calls (.unsent encoded isOpen))).elim
  | recv waits =>
      refine ⟨waits, ?_, ?_⟩
      · cases queued : network.environment.queue side with
        | nil => rfl
        | cons encoded rest => exact (stuck _ (.call calls (.received queued))).elim
      · cases isOpen : network.environment.outbound side.other with
        | true => rfl
        | false =>
            cases queued : network.environment.queue side with
            | nil => exact (stuck _ (.call calls (.unreceived queued isOpen))).elim
            | cons encoded rest => exact (stuck _ (.call calls (.received queued))).elim
  | takeOutbound => exact (stuck _ (.call calls (.takeOutbound _ _))).elim
  | takeInbound => exact (stuck _ (.call calls (.takeInbound _ _))).elim

/-- Threads that take turns and drop their ends are done where they cannot move. -/
theorem Balanced.done_of_stuck {network last : FaultNetwork}
    (balanced : network.environment.Balanced handsOver grip)
    (follow : ∀ side, Follows (Grip.Calls handsOver) (fun grip _ => grip.outbound = false)
      (grip side) (network.program side))
    (steps : Relation.ReflTransGen (Step Answers) network last) (stuck : last.Stuck Answers)
    (side : Side) : ∃ result, last.program side = .done result := by
  rcases Program.invariant_of_steps
    (fun balanced calls answered => balanced.step calls answered) balanced follow steps with
    ⟨grips, balanced, follows⟩
  have waiting : ∀ side, (∃ result, last.program side = .done result) ∨
      (grips side).turn = .theirs ∧ last.environment.queue side = [] ∧
        last.environment.outbound side.other = true := by
    intro side
    have here := follows side
    cases program : last.program side with
    | done result => exact .inl ⟨result, rfl⟩
    | call op next =>
        rw [program] at here
        rcases here with ⟨_, allowed, _⟩
        exact .inr (waits_of_stuck stuck program allowed)
  have gone : ∀ side result, last.program side = .done result →
      last.environment.outbound side = false := by
    intro side result isDone
    have here := follows side
    rw [isDone] at here
    rw [balanced.outbound side]
    exact here
  have both : ∀ side, (∃ result, last.program side = .done result) ∨
      (grips side).turn = .theirs ∧ last.environment.queue side = [] ∧
        (grips side.other).turn = .theirs ∧ last.environment.queue side.other = [] := by
    intro side
    rcases waiting side with isDone | ⟨waits, empty, peerOpen⟩
    · exact .inl isDone
    · rcases waiting side.other with ⟨result, peerDone⟩ | ⟨peerWaits, peerEmpty, _⟩
      · rw [gone _ _ peerDone] at peerOpen
        cases peerOpen
      · exact .inr ⟨waits, empty, peerWaits, peerEmpty⟩
  rcases both side with isDone | ⟨waits, empty, peerWaits, peerEmpty⟩
  · exact isDone
  · -- If both waited, nobody would have the turn.
    exact (balanced.unique.not_all_wait ((Side.forall_iff side).mpr ⟨waits, peerWaits⟩)
      ((Side.forall_iff side).mpr ⟨empty, peerEmpty⟩)).elim

end MemoryLink

/-! ## The threads of the memory demo -/

namespace MemoryTransport

variable {crates : Crates} {codec : EnvelopeCodec} {grip : Grip} {known : Option Turn}
  {transport : MemoryTransport}

/-- The transport of a thread, by the turn that its role knows of. -/
structure Grips (codec : EnvelopeCodec) (grip : Grip) (known : Option Turn)
    (transport : MemoryTransport) : Prop where
  codec_eq : transport.codec = codec
  outbound : grip.outbound = transport.outbound
  live : ∀ turn, known = some turn → grip.turn = turn ∧ transport.outbound = true ∧
    transport.inbound = true

theorem follows_abort (outbound : grip.outbound = transport.outbound) :
    Follows (Grip.Calls (codec.handsOver crates))
      (fun later (ended : Unit × MemoryTransport) => later.outbound = false ∧
        ended.2.outbound = false ∧ ended.2.codec = transport.codec)
      grip (abort transport) := by
  rcases transport with ⟨ownCodec, isOutbound, isInbound⟩
  rcases grip with ⟨turn, gripOutbound⟩
  simp only at outbound
  subst outbound
  cases gripOutbound with
  | false =>
      cases isInbound with
      | false => exact ⟨rfl, rfl, rfl⟩
      | true => exact ⟨_, .takeInbound _, fun _ => ⟨rfl, rfl, rfl⟩⟩
  | true =>
      cases isInbound with
      | false => exact ⟨_, .takeOutbound _, fun _ => ⟨rfl, rfl, rfl⟩⟩
      | true => exact ⟨_, .takeOutbound _, fun _ => ⟨_, .takeInbound _, fun _ => ⟨rfl, rfl, rfl⟩⟩⟩

theorem handsOver_of_decode {encoded : List UInt8} {envelope : WireEnvelope}
    (read : codec.decode crates encoded = .ok envelope) :
    codec.handsOver crates encoded = envelope.frame.handsOver := by
  rw [EnvelopeCodec.handsOver, read]

/-- Sending gives the turn away with the frame, or gives up the link. -/
theorem follows_send {envelope : WireEnvelope} (grips : transport.Grips codec grip (some .mine))
    (passes : ∀ encoded, codec.encode crates envelope = .ok encoded →
      codec.decode crates encoded = .ok envelope) :
    Follows (Grip.Calls (codec.handsOver crates))
      (fun later (answered : Except RuntimeError Unit × MemoryTransport) =>
        answered.2.Grips codec later (TransportOp.sent envelope answered.1))
      grip (send crates envelope transport) := by
  rcases grips with ⟨codecEq, outbound, live⟩
  rcases live _ rfl with ⟨turn, isOutbound, isInbound⟩
  subst codecEq
  have failed : ∀ error, transport.Grips transport.codec grip
      (TransportOp.sent envelope (.error error)) :=
    fun error => ⟨rfl, outbound, by simp [TransportOp.sent]⟩
  rw [send, bind_apply, get_apply, Program.done_bind]
  cases written : transport.codec.encode crates envelope with
  | error error => exact failed error
  | ok encoded =>
      have handed := handsOver_of_decode (passes encoded written)
      simp only [isOutbound, if_true]
      refine ⟨_, .send encoded turn, ?_⟩
      intro (sent : Except Unit Unit)
      rcases sent with ⟨⟨⟩⟩ | ⟨⟨⟩⟩
      · exact failed _
      · refine ⟨rfl, outbound, ?_⟩
        intro known same
        rw [← Option.some.inj same]
        exact ⟨by simp [Grip.sent, Turn.sent, handed], isOutbound, isInbound⟩

/-- Receiving takes the turn that comes with the frame. -/
theorem follows_receive (grips : transport.Grips codec grip (some .theirs)) :
    Follows (Grip.Calls (codec.handsOver crates))
      (fun later (answered : Except RuntimeError WireEnvelope × MemoryTransport) =>
        answered.2.Grips codec later (TransportOp.received answered.1))
      grip (receive crates transport) := by
  rcases grips with ⟨codecEq, outbound, live⟩
  rcases live _ rfl with ⟨turn, isOutbound, isInbound⟩
  subst codecEq
  have failed : ∀ error later, later.outbound = transport.outbound →
      transport.Grips transport.codec later (TransportOp.received (.error error)) :=
    fun error later outbound => ⟨rfl, outbound, by simp [TransportOp.received]⟩
  rw [receive, bind_apply, get_apply, Program.done_bind]
  simp only [isInbound, if_true]
  refine ⟨_, .recv turn (outbound.trans isOutbound), ?_⟩
  intro (received : Except Unit (List UInt8))
  rcases received with ⟨⟨⟩⟩ | encoded
  · exact failed _ _ outbound
  · cases read : transport.codec.decode crates encoded with
    | error error =>
        change Follows _ _ _ (.done (transport.codec.decode crates encoded, transport))
        rw [read]
        exact failed _ _ outbound
    | ok envelope =>
        change Follows _ _ _ (.done (transport.codec.decode crates encoded, transport))
        rw [read]
        refine ⟨rfl, outbound, ?_⟩
        intro known same
        rw [← Option.some.inj same]
        exact ⟨by simp [Grip.received, Turn.received, handsOver_of_decode read], isOutbound,
          isInbound⟩

/-- The transport serves every call of a role that takes turns. -/
theorem follows_handle {op : TransportOp} {after : op.Answer → Option Turn}
    (grips : transport.Grips codec grip known)
    (calls : TransportOp.TakesTurns crates codec known op after) :
    Follows (Grip.Calls (codec.handsOver crates))
      (fun later (answered : op.Answer × MemoryTransport) =>
        answered.2.Grips codec later (after answered.1)) grip (handle crates op transport) := by
  cases calls with
  | send passes => exact follows_send grips passes
  | receive => exact follows_receive grips
  | finish turn role => exact grips
  | abort =>
      apply (follows_abort grips.outbound).mono
      rintro later ended ⟨dropped, gone, sameCodec⟩
      exact ⟨sameCodec.trans grips.codec_eq, dropped.trans gone.symm, by simp⟩

/-- A thread takes the turns of its role, and drops its ends when the role is done. -/
theorem follows_thread {role : RoleProgram} {turn : Turn}
    (follows : Follows (TransportOp.TakesTurns crates codec) (fun _ _ => True) (some turn) role) :
    Follows (Grip.Calls (codec.handsOver crates)) (fun grip _ => grip.outbound = false)
      ⟨turn, true⟩ (thread crates { codec } role) := by
  have grips : Grips codec ⟨turn, true⟩ (some turn) { codec } :=
    ⟨rfl, rfl, fun known same => ⟨Option.some.inj same, rfl, rfl⟩⟩
  apply (follows.implement (fun grips calls => follows_handle grips calls) grips).bind
  rintro later ended ⟨known, grips, _⟩
  apply (follows_abort grips.outbound).bind
  rintro dropped _ ⟨gone, _⟩
  exact gone

end MemoryTransport

/-! ## The threads of the fault demo -/

namespace Injecting

variable {crates : Crates} {handsOver : List UInt8 → Bool} {grip : Grip} {known : Option Turn}
  {transport : FaultInjectingTransport} {operation : FaultOperation} {α : Type}

/-- The transport of a thread, by the turn that its role knows of. -/
structure Grips (grip : Grip) (known : Option Turn) (transport : FaultInjectingTransport) : Prop
  where
  outbound : grip.outbound = transport.outbound
  live : ∀ turn, known = some turn → grip.turn = turn ∧ transport.outbound = true ∧
    transport.inbound = true

theorem Grips.of_failed (outbound : grip.outbound = transport.outbound) :
    Grips grip none transport :=
  ⟨outbound, by simp⟩

theorem grips_innerAbort (outbound : grip.outbound = transport.outbound) :
    Follows (Grip.Calls handsOver)
      (fun later (ended : Unit × FaultInjectingTransport) => later.outbound = false ∧
        ended.2.outbound = false)
      grip (innerAbort transport) := by
  rcases transport with ⟨_, _, _, _, isOutbound, isInbound⟩
  rcases grip with ⟨turn, gripOutbound⟩
  simp only at outbound
  subst outbound
  cases gripOutbound with
  | false =>
      cases isInbound with
      | false => exact ⟨rfl, rfl⟩
      | true => exact ⟨_, .takeInbound _, fun _ => ⟨rfl, rfl⟩⟩
  | true =>
      cases isInbound with
      | false => exact ⟨_, .takeOutbound _, fun _ => ⟨rfl, rfl⟩⟩
      | true => exact ⟨_, .takeOutbound _, fun _ => ⟨_, .takeInbound _, fun _ => ⟨rfl, rfl⟩⟩⟩

/-- An error stays an error, whatever the flag says. -/
theorem grips_mapPeerError (error : RuntimeError) :
    Follows (Grip.Calls handsOver)
      (fun later (ended : Except RuntimeError α × FaultInjectingTransport) =>
        later = grip ∧ ended.2 = transport ∧ ∃ mapped, ended.1 = .error mapped)
      grip (mapPeerError operation (.error error) transport) := by
  rw [mapPeerError, bind_apply, get_apply, Program.done_bind]
  by_cases isFaulted : transport.role = transport.plan.role
  · simp only [isFaulted, ne_eq, not_true, if_false]
    exact ⟨rfl, rfl, error, rfl⟩
  · simp only [isFaulted, ne_eq, not_false_eq_true, if_true]
    refine ⟨_, .loadFired _, ?_⟩
    intro (fired : Bool)
    change Follows _ _ _ ((ite ((fired && error.transportFailure.isSome) = true) _ _ :
      Injecting (Except RuntimeError α)) transport)
    split
    · cases transport.plan.peerFailure with
      | none => exact ⟨rfl, rfl, _, rfl⟩
      | some failure => exact ⟨rfl, rfl, _, rfl⟩
    · exact ⟨rfl, rfl, _, rfl⟩

/-- A call at which the fault is due fails, and any other one goes on to the channel. -/
theorem grips_injecting {inner : Injecting (Except RuntimeError α)}
    {answered : Except RuntimeError α → Option Turn}
    (failed : ∀ error, answered (.error error) = none) (grips : Grips grip known transport)
    (passes : ∀ transport, Grips grip known transport → Follows (Grip.Calls handsOver)
      (fun later (ended : Except RuntimeError α × FaultInjectingTransport) =>
        Grips later (answered ended.1) ended.2) grip
      ((inner >>= fun result => mapPeerError operation result) transport)) :
    Follows (Grip.Calls handsOver)
      (fun later (ended : Except RuntimeError α × FaultInjectingTransport) =>
        Grips later (answered ended.1) ended.2) grip ((do
          if ← shouldInject operation then
            innerAbort
            let transport ← get
            return .error (transport.injectedError operation transport.plan.failure)
          else
            let result ← inner
            mapPeerError operation result : Injecting (Except RuntimeError α)) transport) := by
  have counted : Grips grip known (transport.count operation) := by
    refine ⟨?_, ?_⟩
    · rw [FaultInjectingTransport.outbound_count]
      exact grips.outbound
    · intro turn same
      rw [FaultInjectingTransport.outbound_count, FaultInjectingTransport.inbound_count]
      exact grips.live turn same
  rw [bind_apply, shouldInject_apply, Program.call_bind]
  refine ⟨_, .loadFired _, ?_⟩
  intro (fired : Bool)
  beta_reduce
  by_cases due : fired = false ∧ Due (transport.count operation) operation
  · rw [if_pos due]
    refine ⟨_, .storeFired _, fun _ => ?_⟩
    apply (grips_innerAbort counted.outbound).bind
    rintro later ⟨⟨⟩, ended⟩ ⟨dropped, gone⟩
    change Grips later (answered (.error _)) ended
    rw [failed]
    exact .of_failed (dropped.trans gone.symm)
  · rw [if_neg due]
    exact passes _ counted

/-- After an error of the inner transport, the role has failed. -/
theorem grips_mapped {answered : Except RuntimeError α → Option Turn}
    (failed : ∀ error, answered (.error error) = none) (error : RuntimeError)
    (outbound : grip.outbound = transport.outbound) :
    Follows (Grip.Calls handsOver)
      (fun later (ended : Except RuntimeError α × FaultInjectingTransport) =>
        Grips later (answered ended.1) ended.2) grip
      (mapPeerError operation (.error error) transport) := by
  apply (grips_mapPeerError error).mono
  rintro later ended ⟨sameGrip, sameTransport, mapped, same⟩
  rw [same, failed, sameGrip, sameTransport]
  exact .of_failed outbound

/-- With faults to be injected, the transport that sends holds on to the link as long as the thread
does. -/
theorem grips_send {envelope : WireEnvelope} (grips : Grips grip (some .mine) transport)
    (passes : ∀ encoded, encodeEnvelope crates envelope = .ok encoded →
      decodeEnvelope crates encoded = .ok envelope) :
    Follows (Grip.Calls (EnvelopeCodec.reference.handsOver crates))
      (fun later (answered : Except RuntimeError Unit × FaultInjectingTransport) =>
        Grips later (TransportOp.sent envelope answered.1) answered.2)
      grip (send crates envelope transport) := by
  apply grips_injecting (fun _ => rfl) grips
  intro transport grips
  rcases grips.live _ rfl with ⟨turn, isOutbound, isInbound⟩
  rw [bind_apply, innerSend]
  cases written : encodeEnvelope crates envelope with
  | error error => exact grips_mapped (fun _ => rfl) error grips.outbound
  | ok encoded =>
      have handed : EnvelopeCodec.reference.handsOver crates encoded = envelope.frame.handsOver :=
        MemoryTransport.handsOver_of_decode (passes encoded written)
      dsimp only
      rw [bind_apply, get_apply, Program.done_bind]
      simp only [isOutbound, if_true]
      refine ⟨_, .send encoded turn, ?_⟩
      intro (sent : Except Unit Unit)
      rcases sent with ⟨⟨⟩⟩ | ⟨⟨⟩⟩
      · exact grips_mapped (fun _ => rfl) _ grips.outbound
      · refine ⟨grips.outbound, ?_⟩
        intro known same
        rw [← Option.some.inj same]
        exact ⟨by simp [Grip.sent, Turn.sent, handed], isOutbound, isInbound⟩

/-- So does the one that receives. -/
theorem grips_receive (grips : Grips grip (some .theirs) transport) :
    Follows (Grip.Calls (EnvelopeCodec.reference.handsOver crates))
      (fun later (answered : Except RuntimeError WireEnvelope × FaultInjectingTransport) =>
        Grips later (TransportOp.received answered.1) answered.2)
      grip (receive crates transport) := by
  apply grips_injecting (fun _ => rfl) grips
  intro transport grips
  rcases grips.live _ rfl with ⟨turn, isOutbound, isInbound⟩
  rw [bind_apply, innerReceive, bind_apply, get_apply, Program.done_bind]
  simp only [isInbound, if_true]
  refine ⟨_, .recv turn (grips.outbound.trans isOutbound), ?_⟩
  intro (received : Except Unit (List UInt8))
  rcases received with ⟨⟨⟩⟩ | encoded
  · exact grips_mapped (fun _ => rfl) _ grips.outbound
  · change Follows _ _ _ (mapPeerError .receive (decodeEnvelope crates encoded) transport)
    cases read : decodeEnvelope crates encoded with
    | error error => exact grips_mapped (fun _ => rfl) error grips.outbound
    | ok envelope =>
        refine ⟨grips.outbound, ?_⟩
        intro known same
        have handed : EnvelopeCodec.reference.handsOver crates encoded =
            envelope.frame.handsOver :=
          MemoryTransport.handsOver_of_decode read
        rw [← Option.some.inj same]
        exact ⟨by simp [Grip.received, Turn.received, handed], isOutbound, isInbound⟩

/-- The transport serves every call of a role that takes turns. -/
theorem grips_handle {op : TransportOp} {after : op.Answer → Option Turn}
    (grips : Grips grip known transport)
    (calls : TransportOp.TakesTurns crates .reference known op after) :
    Follows (Grip.Calls (EnvelopeCodec.reference.handsOver crates))
      (fun later (answered : op.Answer × FaultInjectingTransport) =>
        Grips later (after answered.1) answered.2) grip (handle crates op transport) := by
  cases calls with
  | send passes => exact grips_send grips passes
  | receive => exact grips_receive grips
  | finish turn role => exact grips
  | abort =>
      apply (grips_innerAbort grips.outbound).mono
      rintro later ended ⟨dropped, gone⟩
      exact .of_failed (dropped.trans gone.symm)

theorem grips_thread {role : RoleProgram} {turn : Turn} {name : String} {fault : FaultPlan}
    (follows : Follows (TransportOp.TakesTurns crates .reference) (fun _ _ => True) (some turn)
      role) :
    Follows (Grip.Calls (EnvelopeCodec.reference.handsOver crates))
      (fun grip _ => grip.outbound = false)
      ⟨turn, true⟩ (thread crates { role := name, plan := fault } role) := by
  have grips : Grips ⟨turn, true⟩ (some turn) { role := name, plan := fault } :=
    ⟨rfl, fun known same => ⟨Option.some.inj same, rfl, rfl⟩⟩
  apply (follows.implement (fun grips calls => grips_handle grips calls) grips).bind
  rintro later ended ⟨known, grips, _⟩
  apply (grips_innerAbort grips.outbound).bind
  rintro dropped _ ⟨gone, _⟩
  exact gone

end Injecting

/-! ## No thread waits forever -/

/-- In no interleaving do the threads of the memory demo wait for each other. -/
theorem memory_demo_never_deadlocks (crates : Crates) (reads : crates.ReadsBack)
    (plan : PreparedPlan) (built : plan.Built crates) (prompt : String) (tokenLimit : ℕ)
    (cancelAfter : Option ℕ) (encoding : WireEncoding) (fuel : ℕ) (last : FaultNetwork)
    (steps : Relation.ReflTransGen (Step MemoryLink.Answers)
      (memoryThreads crates plan prompt tokenLimit cancelAfter encoding fuel) last)
    (stuck : last.Stuck MemoryLink.Answers) (side : Side) :
    ∃ result, last.program side = .done result := by
  have follow := fun side => MemoryTransport.follows_thread
    (takesTurns_roles built reads encoding
      (MemoryTransport.plan { codec := .forPlan encoding plan }) prompt tokenLimit cancelAfter fuel
      side)
  exact MemoryLink.Balanced.fresh.done_of_stuck follow steps stuck side

theorem memory_demo_never_deadlocks_generate : ∃ last,
    Relation.ReflTransGen (Step MemoryLink.Answers)
      (memoryThreads .reference (Conversation.generate.preparedPlan .reference) "tell me" 3 (some 2)
        .compact 5) last ∧
      last.Stuck MemoryLink.Answers ∧ ∃ result, last.program .left = .done result := by
  rcases Program.Network.exists_stuck MemoryLink.Answers (memoryThreads .reference
    (Conversation.generate.preparedPlan .reference) "tell me" 3 (some 2) .compact 5) with
    ⟨last, steps, stuck⟩
  exact ⟨last, steps, stuck, memory_demo_never_deadlocks .reference
    Crates.reference_lossless.readsBack _ (.compile (Generate.compile .reference)) _ _ _ _ _ last
    steps stuck .left⟩

/-- In no interleaving do the threads of the fault demo wait for each other, wherever the fault
strikes. -/
theorem fault_demo_never_deadlocks (crates : Crates) (reads : crates.ReadsBack)
    (plan : PreparedPlan) (built : plan.Built crates) (prompt : String) (tokenLimit : ℕ)
    (cancelAfter : Option ℕ) (fault : FaultPlan) (fuel : ℕ) (last : FaultNetwork)
    (steps : Relation.ReflTransGen (Step MemoryLink.Answers)
      (faultThreads crates plan prompt tokenLimit cancelAfter fault fuel) last)
    (stuck : last.Stuck MemoryLink.Answers) (side : Side) :
    ∃ result, last.program side = .done result := by
  have follow : ∀ side, Follows (Grip.Calls (EnvelopeCodec.reference.handsOver crates))
      (fun grip _ => grip.outbound = false) ⟨firstTurn side, true⟩
      ((faultThreads crates plan prompt tokenLimit cancelAfter fault fuel).program side) := by
    intro side
    have turns := takesTurns_roles built reads .reference "memory" prompt tokenLimit
      cancelAfter fuel side
    cases side <;> exact Injecting.grips_thread turns
  exact MemoryLink.Balanced.fresh.done_of_stuck follow steps stuck side

theorem fault_demo_never_deadlocks_prompting : ∃ last,
    Relation.ReflTransGen (Step MemoryLink.Answers)
      (faultThreads .reference (Conversation.prompting.preparedPlan .reference) "hello" 1 none
        promptFault 1) last ∧
      last.Stuck MemoryLink.Answers ∧ ∃ result, last.program .right = .done result := by
  rcases Program.Network.exists_stuck MemoryLink.Answers (faultThreads .reference
    (Conversation.prompting.preparedPlan .reference) "hello" 1 none promptFault 1) with
    ⟨last, steps, stuck⟩
  have built : (Conversation.prompting.preparedPlan .reference).Built .reference :=
    .compile (Conversation.preparedPlan_compile_eq_ok_iff.mpr
      ⟨Conversation.compilable_prompting, rfl⟩)
  exact ⟨last, steps, stuck, fault_demo_never_deadlocks .reference
    Crates.reference_lossless.readsBack _ built _ _ _ _ _ last steps stuck .right⟩

end Colloq
