import Colloq.DraftSync
import Colloq.FaultDemo
import Colloq.Library.Schedule

/-!
# The demo over memory channels

Two threads run the generate roles, each with one end of a memory link, which it
drops when it returns. Where two roles end on reliable channels of envelopes, and
every envelope is read back as it was sent, the threads end in the same way.
-/

namespace Colloq

open TurnTaking (Side)

/-- Of the two channel ends it keeps whether they are `Some`. -/
structure MemoryTransport where
  codec : EnvelopeCodec
  outbound : Bool := true
  inbound : Bool := true

namespace MemoryTransport

def plan (transport : MemoryTransport) : String :=
  match transport.codec with
  | .reference => "memory"
  | .compact _ => "memory+compact"

/-- What the transport does to the link that it holds. -/
abbrev Handling := StateT MemoryTransport (Program LinkOp LinkOp.Answer)

def send (crates : Crates) (envelope : WireEnvelope) : Handling (Except RuntimeError Unit) := do
  let transport ← get
  match transport.codec.encode crates envelope with
  | .error error => return .error error
  | .ok encoded =>
    if transport.outbound then
      let sent : Except Unit Unit ← StateT.lift (Program.perform (LinkOp.send encoded))
      return sent.mapError fun _ => .transportClosed "memory"
    else
      return .error (.transportClosed "memory")

def receive (crates : Crates) : Handling (Except RuntimeError WireEnvelope) := do
  let transport ← get
  if transport.inbound then
    let received : Except Unit (List UInt8) ← StateT.lift (Program.perform LinkOp.recv)
    match received with
    | .error () => return .error (.transportClosed "memory")
    | .ok encoded => return transport.codec.decode crates encoded
  else
    return .error (.transportClosed "memory")

/-- Also what dropping the transport does. -/
def abort : Handling Unit := do
  if (← get).outbound then
    let _ : Unit ← StateT.lift (Program.perform LinkOp.takeOutbound)
    modify fun transport => { transport with outbound := false }
  if (← get).inbound then
    let _ : Unit ← StateT.lift (Program.perform LinkOp.takeInbound)
    modify fun transport => { transport with inbound := false }

/-- The `Transport` implementation; there is nothing to finish. -/
def handle (crates : Crates) : (op : TransportOp) → Handling op.Answer
  | .send envelope => send crates envelope
  | .receive => receive crates
  | .finish _ => (pure (.ok ()) : Handling (Except RuntimeError Unit))
  | .abort => abort

/-- The closure of a thread owns its transport and drops it in the end. -/
def thread (crates : Crates) (transport : MemoryTransport) (role : RoleProgram) :
    ThreadProgram := do
  let (result, transport) ← role.implement (handle crates) transport
  let _ ← abort transport
  return result

/-- `memory_pair_with_codec`, and a thread for each role. -/
def threads (crates : Crates) (codec : EnvelopeCodec) (role : Side → RoleProgram) :
    FaultNetwork where
  environment := .fresh
  program side := thread crates { codec } (role side)

end MemoryTransport

/-- The threads of `run_memory_plan_demo_with_encoding` before their first step. -/
def memoryThreads (crates : Crates) (plan : PreparedPlan) (prompt : String) (tokenLimit : ℕ)
    (cancelAfter : Option ℕ) (encoding : WireEncoding) (fuel : ℕ) : FaultNetwork :=
  let codec := EnvelopeCodec.forPlan encoding plan
  let transport := MemoryTransport.plan { codec }
  MemoryTransport.threads crates codec (Side.pair
    (runGenerateClientPlan crates plan transport prompt cancelAfter fuel)
    (runGenerateServerPlan crates plan transport tokenLimit fuel))

/-- What `run_memory_plan_demo_with_encoding` returns once both threads have been joined. -/
def joinMemoryThreads (encoding : WireEncoding) (last : FaultNetwork) :
    Option (Except Halt DemoReport) :=
  let transportPlan := match encoding with
    | .reference => "memory"
    | .compact => "memory+compact"
  match last.program .left, last.program .right with
  | .done client, .done server => some do
    return demoReport transportPlan (← client) (← server)
  | _, _ => none

/-! ## Threads on reliable channels -/

/-- The two roles on channels of envelopes. -/
abbrev RoleNetwork :=
  Program.Network Side Channels TransportOp TransportOp.Answer (Except Halt ExecutionReport)

/-- An operation that a codec passes on: no abort, and no envelope that it does not read back. -/
def EnvelopeCodec.Passes (crates : Crates) (codec : EnvelopeCodec) : TransportOp → Prop
  | .send envelope => ∃ encoded, codec.encode crates envelope = .ok encoded ∧
      codec.decode crates encoded = .ok envelope
  | .receive | .finish _ => True
  | .abort => False

/-- Reliable channels for the envelopes that a codec reads back. -/
def Channels.Delivers (crates : Crates) (codec : EnvelopeCodec) :
    Program.Environment Side Channels TransportOp TransportOp.Answer :=
  Program.guarded Channels.Answers (codec.Passes crates)

/-- Reliable channels for what two roles say to each other before they finish. -/
def Channels.Talks (crates : Crates) (codec : EnvelopeCodec) :
    Program.Environment Side Channels TransportOp TransportOp.Answer :=
  Program.guarded (Channels.Delivers crates codec) fun op => ∀ role, op ≠ .finish role

namespace Channels

variable {crates : Crates} {codec : EnvelopeCodec} {channels later : Channels} {side : Side}
  {envelope : WireEnvelope}

theorem talks_send (answered : Answers channels side (.send envelope) (Except.ok ()) later)
    (passes : codec.Passes crates (.send envelope)) :
    Talks crates codec channels side (.send envelope) (Except.ok ()) later :=
  ⟨⟨answered, passes⟩, by simp⟩

theorem talks_receive (answered : Answers channels side .receive (Except.ok envelope) later) :
    Talks crates codec channels side .receive (Except.ok envelope) later :=
  ⟨⟨answered, trivial⟩, by simp⟩

theorem steps_of_talks {α : Type}
    {network last : Program.Network Side Channels TransportOp TransportOp.Answer α}
    (steps : Relation.ReflTransGen (Program.Step (Talks crates codec)) network last) :
    Relation.ReflTransGen (Program.Step (Delivers crates codec)) network last := by
  refine steps.lift id ?_
  intro before after step
  cases step with
  | call calls answered => exact .call calls answered.1

end Channels

namespace MemoryTransport

open Program (Step)

variable {crates : Crates} {codec : EnvelopeCodec}

theorem bind_apply {α β : Type} (first : Handling α) (rest : α → Handling β)
    (transport : MemoryTransport) :
    (first >>= rest) transport = first transport >>= fun ended => rest ended.1 ended.2 := rfl

theorem get_apply (transport : MemoryTransport) :
    (get : Handling MemoryTransport) transport = .done (transport, transport) := rfl

section Programs

variable {transport : MemoryTransport}

/-- A thread carries out the next call of its role, and goes on as a thread. -/
theorem thread_call {op : TransportOp} (next : op.Answer → RoleProgram) :
    thread crates transport (.call op next) = (handle crates op transport >>= fun answered =>
      thread crates answered.2 (next answered.1)) := by
  have assoc : ∀ {β γ : Type} (first : Program LinkOp LinkOp.Answer (op.Answer × MemoryTransport))
      (rest : op.Answer × MemoryTransport → Program LinkOp LinkOp.Answer β)
      (last : β → Program LinkOp LinkOp.Answer γ),
      (first >>= rest) >>= last = first >>= fun value => rest value >>= last := by
    intro β γ first rest last
    induction first with
    | done value => rfl
    | call op next ih =>
        change Program.call _ _ = Program.call _ _
        congr 1
        funext answer
        exact ih answer
  exact assoc _ _ _

theorem thread_send {envelope : WireEnvelope} {encoded : List UInt8}
    (next : (TransportOp.send envelope).Answer → RoleProgram) (isOpen : transport.outbound = true)
    (written : transport.codec.encode crates envelope = .ok encoded) :
    thread crates transport (.call (.send envelope) next) =
      .call (.send encoded) fun (sent : Except Unit Unit) =>
        thread crates transport (next (sent.mapError fun _ => .transportClosed "memory")) := by
  rw [thread_call]
  simp only [handle, send, bind_apply, get_apply, Program.done_bind, written, isOpen, if_true]
  rfl

theorem thread_receive (next : TransportOp.receive.Answer → RoleProgram)
    (isOpen : transport.inbound = true) :
    thread crates transport (.call .receive next) =
      .call .recv fun (received : Except Unit (List UInt8)) =>
        thread crates transport (next
          (received.mapError (fun _ => .transportClosed "memory") >>=
            transport.codec.decode crates)) := by
  rw [thread_call]
  simp only [handle, receive, bind_apply, get_apply, Program.done_bind, isOpen, if_true]
  change Program.call _ _ = Program.call _ _
  congr 1
  funext received
  rcases received with ⟨⟨⟩⟩ | encoded <;> rfl

theorem thread_finish (role : String) (next : (TransportOp.finish role).Answer → RoleProgram) :
    thread crates transport (.call (.finish role) next) =
      thread crates transport (next (Except.ok ())) := by
  rw [thread_call]
  rfl

/-- A thread whose role is done drops the ends that it has left. -/
theorem thread_done (result : Except Halt ExecutionReport) :
    thread crates transport (.done result) =
      if transport.outbound then
        .call .takeOutbound fun _ =>
          thread crates { transport with outbound := false } (.done result)
      else if transport.inbound then
        .call .takeInbound fun _ =>
          thread crates { transport with inbound := false } (.done result)
      else .done result := by
  rcases transport with ⟨codec, outbound, inbound⟩
  cases outbound <;> cases inbound <;> rfl

end Programs

/-! ## The threads follow the channels -/

/-- The link, and the threads on it, as far as reliable channels and the roles on them tell. A
thread that has dropped an end is one whose role is done. -/
structure Tracks (crates : Crates) (codec : EnvelopeCodec) (real : FaultNetwork)
    (roles : RoleNetwork) : Prop where
  queue : ∀ side, List.Forall₂ (fun encoded envelope => codec.decode crates encoded = .ok envelope)
    (real.environment.queue side) (roles.environment.queue side)
  thread : ∀ side, ∃ transport : MemoryTransport, transport.codec = codec ∧
    real.program side = MemoryTransport.thread crates transport (roles.program side) ∧
    real.environment.outbound side = transport.outbound ∧
    real.environment.inbound side = transport.inbound ∧
    (transport.outbound = true ∧ transport.inbound = true ∨
      ∃ result, roles.program side = .done result)

section Tracks

variable {real after : FaultNetwork} {roles later : RoleNetwork} {side : Side}

/-- Only one thread has moved, along with its role. -/
theorem Tracks.move (tracks : Tracks crates codec real roles) (side : Side)
    (queue : ∀ one, List.Forall₂
      (fun encoded envelope => codec.decode crates encoded = .ok envelope)
      (after.environment.queue one) (later.environment.queue one))
    (others : ∀ other, other ≠ side → after.program other = real.program other ∧
      later.program other = roles.program other ∧
      after.environment.outbound other = real.environment.outbound other ∧
      after.environment.inbound other = real.environment.inbound other)
    (moved : ∃ transport : MemoryTransport, transport.codec = codec ∧
      after.program side = MemoryTransport.thread crates transport (later.program side) ∧
      after.environment.outbound side = transport.outbound ∧
      after.environment.inbound side = transport.inbound ∧
      (transport.outbound = true ∧ transport.inbound = true ∨
        ∃ result, later.program side = .done result)) :
    Tracks crates codec after later where
  queue := queue
  thread := by
    intro one
    by_cases same : one = side
    · subst one
      exact moved
    · rcases others one same with ⟨sameThread, sameRole, sameOutbound, sameInbound⟩
      rw [sameThread, sameRole, sameOutbound, sameInbound]
      exact tracks.thread one

/-- A role finishes its transport without a step of its thread. -/
theorem Tracks.settle (tracks : Tracks crates codec real roles) (side : Side) :
    ∃ later, Relation.ReflTransGen (Step (Channels.Delivers crates codec)) roles later ∧
      Tracks crates codec real later ∧ later.program side.other = roles.program side.other ∧
      ∀ role next, later.program side ≠ .call (.finish role) next := by
  generalize here : roles.program side = program
  induction program generalizing roles with
  | done result =>
      refine ⟨roles, .refl, tracks, rfl, ?_⟩
      intro role next calls
      rw [here] at calls
      cases calls
  | call op next ih =>
      cases op with
      | finish role =>
          let moved : RoleNetwork :=
            { environment := roles.environment
              program := Function.update roles.program side (next (Except.ok ())) }
          have step : Step (Channels.Delivers crates codec) roles moved :=
            .call here ⟨.finished _ side role, trivial⟩
          have tracked : Tracks crates codec real moved := by
            refine tracks.move side tracks.queue ?_ ?_
            · intro other distinct
              refine ⟨rfl, Function.update_of_ne distinct _ _, rfl, rfl⟩
            · rcases tracks.thread side with
                ⟨transport, codecEq, programEq, outbound, inbound, isOpen⟩
              refine ⟨transport, codecEq, ?_, outbound, inbound, ?_⟩
              · rw [programEq, here, thread_finish]
                simp [moved]
              · rcases isOpen with isOpen | ⟨result, isDone⟩
                · exact .inl isOpen
                · rw [here] at isDone
                  cases isDone
          rcases ih _ tracked (Function.update_self ..) with
            ⟨later, steps, tracks, same, settled⟩
          refine ⟨later, .head step steps, tracks, ?_, settled⟩
          rw [same]
          exact Function.update_of_ne side.other_ne _ _
      | _ =>
          refine ⟨roles, .refl, tracks, rfl, ?_⟩
          intro role next calls
          rw [here] at calls
          cases calls

end Tracks

/-- All interleavings from here on end with these results, and with nothing on its way. -/
def Leads (crates : Crates) (codec : EnvelopeCodec) (result : Side → Except Halt ExecutionReport)
    (roles : RoleNetwork) : Prop :=
  ∃ ended, (∀ later, Relation.ReflTransGen (Step (Channels.Delivers crates codec)) roles later →
      Relation.ReflTransGen (Step (Channels.Delivers crates codec)) later ended) ∧
    ∀ side, ended.program side = .done (result side) ∧ ended.environment.queue side = []

namespace Leads

variable {result : Side → Except Halt ExecutionReport} {roles later : RoleNetwork} {side : Side}

theorem steps (leads : Leads crates codec result roles)
    (steps : Relation.ReflTransGen (Step (Channels.Delivers crates codec)) roles later) :
    Leads crates codec result later := by
  rcases leads with ⟨ended, reaches, done⟩
  exact ⟨ended, fun last more => reaches last (steps.trans more), done⟩

/-- Every call is answered later. -/
theorem exists_answer (leads : Leads crates codec result roles) {op : TransportOp}
    {next : op.Answer → RoleProgram} (calls : roles.program side = .call op next) :
    ∃ between answer after,
      Relation.ReflTransGen (Step (Channels.Delivers crates codec)) roles between ∧
      between.program side = .call op next ∧
      Channels.Delivers crates codec between.environment side op answer after := by
  rcases leads with ⟨ended, reaches, done⟩
  apply Program.exists_answer_of_steps calls (reaches roles .refl)
  rw [(done side).1]
  simp

theorem passes (leads : Leads crates codec result roles) {op : TransportOp}
    {next : op.Answer → RoleProgram} (calls : roles.program side = .call op next) :
    codec.Passes crates op := by
  rcases leads.exists_answer calls with ⟨_, _, _, _, _, answered⟩
  exact answered.2

/-- What is queued for a role that is done stays queued. -/
theorem queue_eq_nil (leads : Leads crates codec result roles)
    {ended : Except Halt ExecutionReport} (isDone : roles.program side = .done ended) :
    roles.environment.queue side = [] := by
  rcases leads with ⟨last, reaches, done⟩
  have steps := reaches roles .refl
  have empty := (done side).2
  clear reaches done
  induction steps using Relation.ReflTransGen.head_induction_on with
  | refl => exact empty
  | head step _ ih =>
      cases step with
      | @call party op next answer environment calls answered =>
          have distinct : side ≠ party := by
            intro same
            subst party
            rw [isDone] at calls
            cases calls
          have rest := ih (by simpa [distinct] using isDone)
          cases answered.1 with
          | sent =>
              simp only [Channels.push] at rest
              rw [Side.eq_other_of_ne distinct] at rest ⊢
              simp at rest
          | received =>
              simpa [distinct] using rest
          | finished => exact rest
          | aborted => exact rest

/-- No role sends to one that is done. -/
theorem not_send (leads : Leads crates codec result roles) {envelope : WireEnvelope}
    {next : (TransportOp.send envelope).Answer → RoleProgram}
    (calls : roles.program side = .call (.send envelope) next)
    {ended : Except Halt ExecutionReport} (isDone : roles.program side.other = .done ended) :
    False := by
  rcases leads.exists_answer calls with ⟨between, answer, environment, steps, stillCalls, answered⟩
  have onward := steps.tail (Program.Step.call stillCalls answered)
  have empty := (leads.steps onward).queue_eq_nil (Program.done_of_steps isDone onward)
  cases answered.1 with
  | sent => simp [Channels.push] at empty

/-- No role waits for one that is done. -/
theorem not_receive (leads : Leads crates codec result roles)
    {next : TransportOp.receive.Answer → RoleProgram}
    (calls : roles.program side = .call .receive next)
    (empty : roles.environment.queue side = []) {ended : Except Halt ExecutionReport}
    (isDone : roles.program side.other = .done ended) : False := by
  rcases leads.exists_answer calls with ⟨between, answer, environment, steps, stillCalls, answered⟩
  have stuck : roles.Stuck (Channels.Delivers crates codec) := by
    intro later step
    cases step with
    | @call party op next answer environment partyCalls partyAnswered =>
        by_cases same : party = side
        · subst party
          rw [calls] at partyCalls
          cases partyCalls
          cases partyAnswered.1 with
          | received queued => simp [empty] at queued
        · rw [Side.eq_other_of_ne same, isDone] at partyCalls
          cases partyCalls
  rw [← Program.eq_of_steps_of_stuck stuck steps] at answered
  cases answered.1 with
  | received queued => simp [empty] at queued

end Leads

/-! ## Every interleaving of the threads -/

section Steps

variable {real after : FaultNetwork} {roles : RoleNetwork}
  {result : Side → Except Halt ExecutionReport}

/-- An end that is gone belongs to a thread whose role is done. -/
theorem Tracks.done_of_closed (tracks : Tracks crates codec real roles) {side : Side}
    (closed : real.environment.outbound side = false ∨ real.environment.inbound side = false) :
    ∃ result, roles.program side = .done result := by
  rcases tracks.thread side with ⟨transport, _, _, outbound, inbound, isOpen | isDone⟩
  · rw [outbound, inbound, isOpen.1, isOpen.2] at closed
    simp at closed
  · exact isDone

/-- The thread of a role that is not done has both of its ends. -/
theorem Tracks.thread_of_call (tracks : Tracks crates codec real roles) {side : Side}
    {op : TransportOp} {next : op.Answer → RoleProgram}
    (calls : roles.program side = .call op next) :
    real.program side = MemoryTransport.thread crates { codec } (.call op next) ∧
      real.environment.outbound side = true ∧ real.environment.inbound side = true := by
  rcases tracks.thread side with ⟨transport, codecEq, programEq, outbound, inbound, isOpen | isDone⟩
  · have same : transport = { codec } := by
      rcases transport with ⟨ownCodec, own, other⟩
      rw [← codecEq, show own = true from isOpen.1, show other = true from isOpen.2]
    rw [programEq, calls, outbound, inbound, same]
    exact ⟨rfl, rfl, rfl⟩
  · rcases isDone with ⟨result, isDone⟩
    rw [calls] at isDone
    cases isDone

/-- A role whose call was answered goes on along with its thread. -/
theorem Tracks.answered (tracks : Tracks crates codec real roles) {side : Side}
    {op : TransportOp} {next : op.Answer → RoleProgram} {answer : op.Answer}
    {left : ThreadProgram} {queues : Side → List (List UInt8)} {channels : Channels}
    (calls : roles.program side = .call op next)
    (answered : Channels.Delivers crates codec roles.environment side op answer channels)
    (goesOn : left = MemoryTransport.thread crates { codec } (next answer))
    (queue : ∀ one, List.Forall₂
      (fun encoded envelope => codec.decode crates encoded = .ok envelope)
      (queues one) (channels.queue one)) :
    ∃ later, Relation.ReflTransGen (Step (Channels.Delivers crates codec)) roles later ∧
      Tracks crates codec
        { environment := { real.environment with queue := queues }
          program := Function.update real.program side left } later := by
  rcases tracks.thread_of_call calls with ⟨_, isOutbound, isInbound⟩
  refine ⟨_, .single (.call calls answered), ?_⟩
  refine tracks.move side queue ?_ ?_
  · intro other distinct
    simp [distinct]
  · refine ⟨{ codec }, rfl, ?_, isOutbound, isInbound, .inl ⟨rfl, rfl⟩⟩
    simpa using goesOn

/-- A thread whose role is done drops an end. -/
theorem Tracks.dropped (tracks : Tracks crates codec real roles) {side : Side}
    {ended : Except Halt ExecutionReport} (isDone : roles.program side = .done ended)
    {op : LinkOp} {next : op.Answer → ThreadProgram} {answer : op.Answer} {link : MemoryLink}
    (calls : real.program side = .call op next)
    (answered : MemoryLink.Answers real.environment side op answer link) :
    Tracks crates codec
      { environment := link, program := Function.update real.program side (next answer) }
      roles := by
  rcases tracks.thread side with ⟨transport, codecEq, programEq, outbound, inbound, _⟩
  rw [isDone, thread_done, calls] at programEq
  split_ifs at programEq with isOutbound isInbound
  · cases programEq
    cases answered
    refine tracks.move side tracks.queue ?_ ?_
    · intro other distinct
      simp [distinct]
    · refine ⟨{ transport with outbound := false }, codecEq, ?_, ?_, inbound, .inr ⟨_, isDone⟩⟩
      · simp [isDone]
      · simp
  · cases programEq
    cases answered
    refine tracks.move side tracks.queue ?_ ?_
    · intro other distinct
      simp [distinct]
    · refine ⟨{ transport with inbound := false }, codecEq, ?_, outbound, ?_, .inr ⟨_, isDone⟩⟩
      · simp [isDone]
      · simp

/-- Whatever a thread does, the roles can follow on their channels. -/
theorem Tracks.step (tracks : Tracks crates codec real roles)
    (leads : Leads crates codec result roles) (step : Step MemoryLink.Answers real after) :
    ∃ later, Relation.ReflTransGen (Step (Channels.Delivers crates codec)) roles later ∧
      Tracks crates codec after later := by
  cases step with
  | @call side linkOp linkNext linkAnswer link linkCalls linkAnswered =>
      rcases tracks.settle side with ⟨settled, steps, tracks, _, notFinish⟩
      have leads := leads.steps steps
      suffices moves : ∃ later,
          Relation.ReflTransGen (Step (Channels.Delivers crates codec)) settled later ∧
            Tracks crates codec
              { environment := link
                program := Function.update real.program side (linkNext linkAnswer) } later by
        rcases moves with ⟨later, more, tracked⟩
        exact ⟨later, steps.trans more, tracked⟩
      cases here : settled.program side with
      | done ended => exact ⟨settled, .refl, tracks.dropped here linkCalls linkAnswered⟩
      | call op next =>
          have program := (tracks.thread_of_call here).1
          have passes := leads.passes here
          rw [linkCalls] at program
          cases op with
          | finish role => exact absurd here (notFinish role next)
          | abort => exact passes.elim
          | send envelope =>
              rcases passes with ⟨encoded, written, read⟩
              rw [thread_send next rfl written] at program
              cases program
              cases linkAnswered with
              | sent =>
                  refine tracks.answered here ⟨.sent _ _ envelope, encoded, written, read⟩ rfl ?_
                  intro one
                  by_cases same : one = side.other
                  · subst one
                    simp only [Channels.push, Function.update_self]
                    exact List.rel_append (tracks.queue side.other) (.cons read .nil)
                  · simpa [Channels.push, same] using tracks.queue one
              | unsent _ closed =>
                  rcases tracks.done_of_closed (.inr closed) with ⟨ended, isDone⟩
                  exact (leads.not_send here isDone).elim
          | receive =>
              rw [thread_receive next rfl] at program
              cases program
              cases linkAnswered with
              | received queued =>
                  have head := tracks.queue side
                  rw [queued] at head
                  rcases List.forall₂_cons_left_iff.mp head with
                    ⟨envelope, rest, read, restRead, channelQueued⟩
                  refine tracks.answered here ⟨.received channelQueued, trivial⟩ ?_ ?_
                  · exact congrArg
                      (fun answer => MemoryTransport.thread crates { codec } (next answer))
                      read
                  · intro one
                    by_cases same : one = side
                    · subst one
                      simpa using restRead
                    · simpa [same] using tracks.queue one
              | unreceived empty closed =>
                  rcases tracks.done_of_closed (.inl closed) with ⟨ended, isDone⟩
                  have nothing := tracks.queue side
                  rw [empty, List.forall₂_nil_left_iff] at nothing
                  exact (leads.not_receive here nothing isDone).elim

theorem Tracks.steps (tracks : Tracks crates codec real roles)
    (leads : Leads crates codec result roles)
    (steps : Relation.ReflTransGen (Step MemoryLink.Answers) real after) :
    ∃ later, Relation.ReflTransGen (Step (Channels.Delivers crates codec)) roles later ∧
      Tracks crates codec after later := by
  induction steps with
  | refl => exact ⟨roles, .refl, tracks⟩
  | tail _ step ih =>
      rcases ih with ⟨between, before, tracks⟩
      rcases tracks.step (leads.steps before) step with ⟨later, steps, tracks⟩
      exact ⟨later, before.trans steps, tracks⟩

/-- If no thread can move, then no role can, unless it has only to finish its transport. -/
theorem Tracks.stuck (tracks : Tracks crates codec real roles)
    (leads : Leads crates codec result roles) (stuck : real.Stuck MemoryLink.Answers)
    (notFinish : ∀ side role next, roles.program side ≠ .call (.finish role) next) :
    roles.Stuck (Channels.Delivers crates codec) := by
  intro later step
  cases step with
  | @call side op next answer channels calls answered =>
      have program := (tracks.thread_of_call calls).1
      have passes := leads.passes calls
      cases op with
      | finish role => exact notFinish side role next calls
      | abort => exact passes
      | send envelope =>
          rcases passes with ⟨encoded, written, _⟩
          rw [thread_send next rfl written] at program
          cases isOpen : real.environment.inbound side.other with
          | true => exact stuck _ (.call program (.sent encoded isOpen))
          | false => exact stuck _ (.call program (.unsent encoded isOpen))
      | receive =>
          rw [thread_receive next rfl] at program
          cases answered.1 with
          | received queued =>
              have head := tracks.queue side
              rw [queued] at head
              rcases List.forall₂_cons_right_iff.mp head with ⟨encoded, rest, _, _, linkQueued⟩
              exact stuck _ (.call program (.received linkQueued))

/-- Threads that cannot move have the results to which their roles lead. -/
theorem Tracks.done_of_stuck (tracks : Tracks crates codec real roles)
    (leads : Leads crates codec result roles) (stuck : real.Stuck MemoryLink.Answers)
    (side : Side) : real.program side = .done (result side) := by
  rcases tracks.settle .left with ⟨between, first, tracks, _, leftSettled⟩
  rcases tracks.settle .right with ⟨settled, second, tracks, same, rightSettled⟩
  have leads := (leads.steps first).steps second
  have notFinish : ∀ side role next, settled.program side ≠ .call (.finish role) next := by
    intro side role next
    cases side with
    | left =>
        rw [show settled.program .left = between.program .left from same]
        exact leftSettled role next
    | right => exact rightSettled role next
  have rolesStuck := tracks.stuck leads stuck notFinish
  rcases leads with ⟨ended, reaches, done⟩
  have isDone : settled.program side = .done (result side) := by
    rw [Program.eq_of_steps_of_stuck rolesStuck (reaches settled .refl)]
    exact (done side).1
  rcases tracks.thread side with ⟨transport, _, program, _⟩
  rw [isDone, thread_done] at program
  split_ifs at program
  · exact (stuck _ (.call program (.takeOutbound _ _))).elim
  · exact (stuck _ (.call program (.takeInbound _ _))).elim
  · exact program

/-- Where the roles lead on reliable channels, there the threads end. -/
theorem threads_end {role : Side → RoleProgram} {last : FaultNetwork}
    (leads : Leads crates codec result
      { environment := { queue := Side.pair [] [] }, program := role })
    (steps : Relation.ReflTransGen (Step MemoryLink.Answers) (threads crates codec role) last)
    (stuck : last.Stuck MemoryLink.Answers) (side : Side) :
    last.program side = .done (result side) := by
  have tracks : Tracks crates codec (threads crates codec role)
      { environment := { queue := Side.pair [] [] }, program := role } := by
    refine ⟨?_, ?_⟩
    · intro side
      cases side <;> exact .nil
    · intro side
      exact ⟨{ codec }, rfl, rfl, rfl, rfl, .inl ⟨rfl, rfl⟩⟩
  rcases tracks.steps leads steps with ⟨later, more, tracks⟩
  exact tracks.done_of_stuck (leads.steps more) stuck side

end Steps

end MemoryTransport

end Colloq
