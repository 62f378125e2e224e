import Colloq.Agreement
import Colloq.Delivery
import Colloq.Framing
import Colloq.Library.Connection

/-!
# The demos over TCP and QUIC

Two threads establish a session on one connection and run their roles on it. What the
roles say to each other on reliable channels, they say as frames on the connection. At
the end QUIC closes the connection, which only the client does, when the server has
nothing more to do. So the threads end where the roles do, whatever carries them.
-/

namespace Colloq

open Program (Answered Path Step logged)
open Streaming
open TurnTaking (Side)

/-- `DemoTransport::Tcp` and `DemoTransport::Quic` -/
inductive StreamTransport where
  | tcp
  | quic

namespace StreamTransport

def kind : StreamTransport → NetworkKind
  | .tcp => .tcp
  | .quic => .quic

/-- `Transport::plan` -/
def plan : StreamTransport → WireEncoding → String
  | .tcp, .reference => "tcp"
  | .tcp, .compact => "tcp+compact"
  | .quic, .reference => "quic"
  | .quic, .compact => "quic+compact"

/-- `Transport::finish`; TCP keeps the default of the trait. -/
def finish : StreamTransport → String → Networking Unit
  | .tcp, _ => pure ()
  | .quic, role => QuicTransport.finish role

/-- A program of the threads on their connection. -/
abbrev Running := Program (StreamOp UInt8) (StreamOp.Answer UInt8 StreamError)

/-- The `Transport` implementation. -/
def handle (crates : Crates) (demo : StreamTransport) :
    (op : TransportOp) → StateT NetworkTransport Running op.Answer
  | .send envelope => (NetworkTransport.send crates envelope).start
  | .receive => (NetworkTransport.receive crates).start
  | .finish role => (demo.finish role).start
  | .abort => fun transport => .call .close fun _ => .done ((), transport)

/-- The role on an established session. -/
def carryOut {α : Type} (crates : Crates) (demo : StreamTransport) (transport : NetworkTransport)
    (role : Program TransportOp TransportOp.Answer α) : Running α :=
  Prod.fst <$> role.implement (demo.handle crates) transport

/-- The closure of a thread, from its connection on. -/
def thread {α : Type} (crates : Crates) (demo : StreamTransport) (encoding : WireEncoding)
    (plan : PreparedPlan) (localRole peerRole : String)
    (role : Program TransportOp TransportOp.Answer (Except Halt α)) : Running (Except Halt α) := do
  let transport : NetworkTransport := { kind := demo.kind, codec := .forPlan encoding plan }
  let (session, transport) ←
    (NetworkTransport.establishSession crates plan localRole peerRole).start transport
  match session with
  | .error error => return .error (.error error)
  | .ok _ => demo.carryOut crates transport role

/-- The two threads of a demo on a new connection. -/
def threads {α : Type} (crates : Crates) (demo : StreamTransport) (encoding : WireEncoding)
    (plan : PreparedPlan) (role : Side → Program TransportOp TransportOp.Answer (Except Halt α)) :
    Program.Network Side (Pipes UInt8) (StreamOp UInt8) (StreamOp.Answer UInt8 StreamError)
      (Except Halt α) where
  environment _ := {}
  program side := demo.thread crates encoding plan (generateRole side) (generateRole side.other)
    (role side)

end StreamTransport

/-- The threads of `run_tcp_plan_demo_with_encoding` or `run_quic_plan_demo_with_encoding`. -/
def networkThreads (crates : Crates) (plan : PreparedPlan) (prompt : String) (tokenLimit : ℕ)
    (cancelAfter : Option ℕ) (demo : StreamTransport) (encoding : WireEncoding) (fuel : ℕ) :
    Program.Network Side (Pipes UInt8) (StreamOp UInt8) (StreamOp.Answer UInt8 StreamError)
      (Except Halt ExecutionReport) :=
  let transport := demo.plan encoding
  demo.threads crates encoding plan (Side.pair
    (runGenerateClientPlan crates plan transport prompt cancelAfter fuel)
    (runGenerateServerPlan crates plan transport tokenLimit fuel))

/-- What an envelope is on the connection. -/
def EnvelopeCodec.frame (crates : Crates) (codec : EnvelopeCodec) (envelope : WireEnvelope) :
    List UInt8 :=
  match codec.encode crates envelope with
  | .ok encoded => Streaming.frame encoded
  | .error _ => []

/-- The channels as a connection carries them. -/
def Channels.wire (crates : Crates) (codec : EnvelopeCodec) (channels : Channels) :
    Side → List UInt8 :=
  fun side => (channels.queue side).flatMap (codec.frame crates)

/-- Every envelope on its way is read back as it was sent. -/
def Channels.Readable (crates : Crates) (codec : EnvelopeCodec) (channels : Channels) : Prop :=
  ∀ side, ∀ envelope ∈ channels.queue side, codec.Passes crates (.send envelope)

section Frames

variable {crates : Crates} {codec : EnvelopeCodec} {transport : NetworkTransport}
  {envelope : WireEnvelope} {encoded : List UInt8}

theorem EnvelopeCodec.frame_of_encode (written : codec.encode crates envelope = .ok encoded) :
    codec.frame crates envelope = Streaming.frame encoded := by
  rw [frame, written]

theorem NetworkTransport.requireSession_of_established
    (session : transport.sessionEstablished = true) : transport.requireSession = .ok () := by
  rcases transport with ⟨kind, codec, established, finished⟩
  simp only at session
  subst session
  cases kind <;>
    simp [NetworkTransport.requireSession, NetworkTransport.requireCompactSession,
      IrohTransport.requireSession, Checked.ensure]

theorem NetworkTransport.path_send_sends (session : transport.sessionEstablished = true)
    (written : transport.codec.encode crates envelope = .ok encoded) :
    ∃ events, Path ((send crates envelope).start transport) events
      (.done (.ok (), transport)) ∧ Sends (Streaming.frame encoded) events := by
  have short := lt_size_of_le_maxEnvelopeBytes (EnvelopeCodec.exists_document written).2
  rw [send, Program.Stateful.start_bind_of_done rfl, requireSession_of_established session,
    Program.Stateful.start_bind_of_done (Program.Stateful.start_ofExcept _), written,
    Program.Stateful.start_bind_of_done (Program.Stateful.start_ofExcept _)]
  exact path_writeFrame_sends transport.kind .envelopeTooLarge short

theorem NetworkTransport.path_receive_receives (session : transport.sessionEstablished = true)
    (written : transport.codec.encode crates envelope = .ok encoded)
    (read : transport.codec.decode crates encoded = .ok envelope) :
    ∃ events, Path ((receive crates).start transport) events
      (.done (.ok envelope, transport)) ∧ Receives (Streaming.frame encoded) events := by
  have limited := (EnvelopeCodec.exists_document written).2
  rcases @path_readFrame_receives transport transport.kind .envelopeTooLarge maxEnvelopeBytes
    (pure ()) _ (lt_size_of_le_maxEnvelopeBytes limited) limited with ⟨events, path, receives⟩
  refine ⟨events, ?_, receives⟩
  rw [receive, Program.Stateful.start_bind_of_done rfl, requireSession_of_established session,
    Program.Stateful.start_bind_of_done (Program.Stateful.start_ofExcept _),
    ← List.append_nil events]
  apply Program.Stateful.path_bind path
  rw [read, Program.Stateful.start_ofExcept]
  exact .refl _

end Frames

namespace StreamTransport

variable {crates : Crates} {demo : StreamTransport} {codec : EnvelopeCodec} {α : Type}
  {transport : NetworkTransport}

/-- A role goes on as soon as its call has been carried out. -/
theorem path_carryOut {op : TransportOp}
    {next : op.Answer → Program TransportOp TransportOp.Answer α} {answer : op.Answer}
    {later : NetworkTransport} {events : List (StreamEvent UInt8 StreamError)}
    (path : Path (demo.handle crates op transport) events (.done (answer, later))) :
    Path (demo.carryOut crates transport (.call op next)) events
      (demo.carryOut crates later (next answer)) := by
  have whole : Path ((Program.call op next).implement (demo.handle crates) transport) events
      ((next answer).implement (demo.handle crates) later) := by
    rw [← List.append_nil events]
    exact Path.bind path (.refl _)
  exact whole.bind_left _

/-- The roles on their transports. -/
def carried (crates : Crates) (demo : StreamTransport) (transport : NetworkTransport)
    (roles : Program.Network Side Channels TransportOp TransportOp.Answer α) :
    Program.Network Side (Side → List UInt8) (StreamOp UInt8) (StreamOp.Answer UInt8 StreamError)
      α where
  environment := roles.environment.wire crates transport.codec
  program side := demo.carryOut crates transport (roles.program side)

variable {roles later : Program.Network Side Channels TransportOp TransportOp.Answer α}

/-- What one role says or hears, its thread writes or reads as a frame. -/
theorem steps_of_talk (session : transport.sessionEstablished = true)
    (readable : roles.environment.Readable crates transport.codec)
    (step : Step (Channels.Talks crates transport.codec) roles later) :
    later.environment.Readable crates transport.codec ∧
      Relation.ReflTransGen (Step Flows) (demo.carried crates transport roles)
        (demo.carried crates transport later) := by
  cases step with
  | @call side op next answer channels calls answered =>
      rcases answered with ⟨⟨answered, passes⟩, unfinished⟩
      suffices moves : channels.Readable crates transport.codec ∧ ∃ events,
          Path (demo.handle crates op transport) events (.done (answer, transport)) ∧
            Answered Flows side (roles.environment.wire crates transport.codec) events
              (channels.wire crates transport.codec) by
        rcases moves with ⟨readable, events, path, flows⟩
        refine ⟨readable, ?_⟩
        have path : Path ((demo.carried crates transport roles).program side) events
            (demo.carryOut crates transport (next answer)) := by
          simp only [carried, calls]
          exact path_carryOut path
        have steps := Program.steps_of_path side path flows
        have same : (demo.carried crates transport ⟨channels,
            Function.update roles.program side (next answer)⟩).program =
              Function.update (demo.carried crates transport roles).program side
                (demo.carryOut crates transport (next answer)) := by
          funext one
          by_cases here : one = side
          · subst one
            simp [carried]
          · simp [carried, here]
        simp only [carried] at same steps ⊢
        rw [same]
        exact steps
      cases answered with
      | sent envelope =>
          rcases passes with ⟨encoded, written, read⟩
          refine ⟨?_, ?_⟩
          · intro one other member
            by_cases here : one = side.other
            · subst one
              simp only [Channels.push, Function.update_self, List.mem_append,
                List.mem_singleton] at member
              rcases member with before | same
              · exact readable _ _ before
              · subst same
                exact ⟨encoded, written, read⟩
            · simp only [Channels.push, Function.update_of_ne here] at member
              exact readable _ _ member
          · rcases NetworkTransport.path_send_sends session written with ⟨events, path, sends⟩
            refine ⟨events, path, ?_⟩
            have wired : (roles.environment.push side.other envelope).wire crates
                transport.codec = Function.update (roles.environment.wire crates transport.codec)
                  side.other (roles.environment.wire crates transport.codec side.other ++
                    Streaming.frame encoded) := by
              funext one
              by_cases here : one = side.other
              · subst one
                simp [Channels.wire, Channels.push, EnvelopeCodec.frame_of_encode written]
              · simp [Channels.wire, Channels.push, here]
            rw [wired]
            exact sends side _
      | @received envelope rest queued =>
          have head : envelope ∈ roles.environment.queue side := by
            rw [queued]
            exact List.mem_cons_self
          rcases readable side envelope head with ⟨encoded, written, read⟩
          refine ⟨?_, ?_⟩
          · intro one other member
            by_cases here : one = side
            · subst one
              simp only [Function.update_self] at member
              apply readable
              rw [queued]
              exact List.mem_cons_of_mem _ member
            · simp only [Function.update_of_ne here] at member
              exact readable _ _ member
          · rcases NetworkTransport.path_receive_receives session written read with
              ⟨events, path, receives⟩
            refine ⟨events, path, ?_⟩
            have wired : Channels.wire crates transport.codec
                ⟨Function.update roles.environment.queue side rest⟩ =
                  Function.update (roles.environment.wire crates transport.codec) side
                    (rest.flatMap (transport.codec.frame crates)) := by
              funext one
              by_cases here : one = side
              · subst one
                simp [Channels.wire]
              · simp [Channels.wire, here]
            rw [wired]
            apply receives
            rw [Channels.wire, queued, List.flatMap_cons, EnvelopeCodec.frame_of_encode written]
      | finished => exact absurd rfl (unfinished _)
      | aborted => exact passes.elim

theorem steps_of_talks (session : transport.sessionEstablished = true)
    (readable : roles.environment.Readable crates transport.codec)
    (steps : Relation.ReflTransGen (Step (Channels.Talks crates transport.codec)) roles later) :
    Relation.ReflTransGen (Step Flows) (demo.carried crates transport roles)
      (demo.carried crates transport later) := by
  suffices both : later.environment.Readable crates transport.codec ∧
      Relation.ReflTransGen (Step Flows) (demo.carried crates transport roles)
        (demo.carried crates transport later) from both.2
  induction steps with
  | refl => exact ⟨readable, .refl⟩
  | tail _ step ih =>
      rcases steps_of_talk session ih.1 step with ⟨readable, further⟩
      exact ⟨readable, ih.2.trans further⟩

/-! ## From the session to its end -/

/-- The transport of a thread while its session lasts. -/
def inSession (demo : StreamTransport) (codec : EnvelopeCodec) : NetworkTransport where
  kind := demo.kind
  codec
  sessionEstablished := true

section Finish

variable {demo : StreamTransport} {codec : EnvelopeCodec} {crates : Crates} {α : Type}
  {role : String}
  {next : (TransportOp.finish role).Answer → Program TransportOp TransportOp.Answer α}

/-- The close marker as it is read. -/
def markerBytes : Vector UInt8 4 := ⟨closeMarker.toArray, rfl⟩

/-- The client says that it is done, hears that the server is, and closes the connection. -/
theorem path_finish_client {next : (TransportOp.finish "client").Answer →
      Program TransportOp TransportOp.Answer α} :
    ∃ after, Path (carryOut crates .quic (inSession .quic codec) (.call (.finish "client") next))
      ([⟨.writeAll closeMarker, .ok ()⟩] ++
        [⟨.readExact 4, .ok markerBytes⟩, ⟨.close, ()⟩])
      (carryOut crates .quic after (next (Except.ok ()))) := by
  refine ⟨{ inSession .quic codec with finished := true }, path_carryOut ?_⟩
  exact .call (.call (.call (.refl _)))

/-- The server hears that the client is done, and says that it is. -/
theorem path_finish_server {next : (TransportOp.finish "server").Answer →
      Program TransportOp TransportOp.Answer α} :
    ∃ after, Path (carryOut crates .quic (inSession .quic codec) (.call (.finish "server") next))
      [⟨.readExact 4, .ok markerBytes⟩, ⟨.writeAll closeMarker, .ok ()⟩]
      (carryOut crates .quic after (next (Except.ok ()))) := by
  refine ⟨{ inSession .quic codec with finished := true }, path_carryOut ?_⟩
  exact .call (.call (.refl _))

end Finish

section Ends

variable {demo : StreamTransport} {codec : EnvelopeCodec} {crates : Crates} {α : Type}
  {next : (side : Side) → Except RuntimeError Unit → Program TransportOp TransportOp.Answer α}
  {result : Side → α} {program : Side → Running α}
  {log : Side → List (StreamEvent UInt8 StreamError)}

/-- Where both roles have only to finish their transports, the threads return what the roles do,
and nothing is lost when the connection is closed. -/
theorem exists_ends (returns : ∀ side, next side (Except.ok ()) = .done (result side))
    (steps : Relation.ReflTransGen (Step (logged Flows)) (Streaming.fresh program)
      ⟨(Side.pair [] [], log), fun side => demo.carryOut crates (demo.inSession codec)
        (.call (.finish (generateRole side)) (next side))⟩) :
    ∃ inFlight events, Relation.ReflTransGen (Step (logged Patient)) (Streaming.fresh program)
      ⟨(inFlight, events), fun side => .done (result side)⟩ ∧ ClosesLast events := by
  have quiet : ∀ side, NeverCloses (log side) :=
    neverCloses_of_steps (by simp [Streaming.fresh, NeverCloses]) steps
  have before := patient_of_flows steps
  cases demo with
  | tcp =>
      refine ⟨Side.pair [] [], log, ?_, closesLast_of_neverCloses quiet⟩
      have finished : (fun side => carryOut crates .tcp (inSession .tcp codec)
          (.call (.finish (generateRole side)) (next side))) = fun side => .done (result side) := by
        funext side
        have pure : carryOut crates .tcp (inSession .tcp codec)
            (.call (.finish (generateRole side)) (next side)) =
              carryOut crates .tcp (inSession .tcp codec) (next side (Except.ok ())) := rfl
        rw [pure, returns]
        rfl
      rw [finished] at before
      exact before
  | quic =>
      rcases @path_finish_client codec crates α (next .left) with ⟨left, leftPath⟩
      rcases @path_finish_server codec crates α (next .right) with ⟨right, rightPath⟩
      rw [returns] at leftPath rightPath
      let said : List (StreamEvent UInt8 StreamError) := [⟨.writeAll closeMarker, .ok ()⟩]
      let read : List (StreamEvent UInt8 StreamError) := [⟨.readExact 4, .ok markerBytes⟩]
      let close : List (StreamEvent UInt8 StreamError) := [⟨.close, ()⟩]
      have sends : Sends closeMarker said := sends_writeAll closeMarker
      have receives : Receives closeMarker read := receives_readExact markerBytes
      have closes (inFlight : Side → List UInt8) :
          Answered Patient .left inFlight close inFlight := .call .closed (.refl _)
      have speaks := (patient_of_answered (@Sends.left _ _ _ [] [] _ sends)).logged log
      have hears := patient_of_answered (@Receives.right _ _ _ [] [] _ receives)
      have answers := patient_of_answered (@Sends.right _ _ _ [] [] _ sends)
      have ends := patient_of_answered (@Receives.left _ _ _ [] [] _ receives)
      rw [List.append_nil] at hears ends
      have talks := (hears.trans answers).logged (Function.update log .left (log .left ++ said))
      have leaves := (ends.trans (closes _)).logged (Function.update
        (Function.update log .left (log .left ++ said)) .right (log .right ++ (read ++ said)))
      have programs : (fun side => carryOut crates .quic (inSession .quic codec)
          (.call (.finish (generateRole side)) (next side))) = Side.pair
            (carryOut crates .quic (inSession .quic codec) (.call (.finish "client") (next .left)))
            (carryOut crates .quic (inSession .quic codec)
              (.call (.finish "server") (next .right))) := by
        funext side
        cases side <;> rfl
      rw [programs] at before
      have whole := before.trans (Program.steps_talk leftPath rightPath speaks talks leaves)
      have done : Side.pair (carryOut crates .quic left (.done (result .left)))
          (carryOut crates .quic right (.done (result .right))) =
            fun side => (.done (result side) : Running α) := by
        funext side
        cases side <;> rfl
      rw [done] at whole
      have accounts := accounts_fresh.steps whole .left
      have quietSaid : NeverCloses said := by simp [said, NeverCloses]
      have quietRead : NeverCloses read := by simp [read, NeverCloses]
      refine ⟨_, _, whole, @closesLast_of_close _ _ _ (log .left ++ (said ++ read))
        (log .right ++ read) closeMarker (.ok ()) ?_ ?_ ?_ ?_ ?_ ?_⟩
      · simp [close, List.append_assoc]
      · simp [said]
      · simp [closeMarker, toBeBytes]
      · exact neverCloses_append.mpr ⟨quiet .left, neverCloses_append.mpr ⟨quietSaid, quietRead⟩⟩
      · exact neverCloses_append.mpr ⟨quiet .right, quietRead⟩
      · simpa [close, List.append_assoc, Side.other] using accounts

end Ends

section Session

variable {crates : Crates} {demo : StreamTransport} {encoding : WireEncoding} {plan : PreparedPlan}

/-- What a thread sends in its handshake. -/
def preface (plan : PreparedPlan) (encoding : WireEncoding) (side : Side) : SessionPreface where
  colloqSession := sessionFormat
  conversation := plan.conversation
  conversationIdentity := plan.conversationIdentity
  planIdentity := plan.planIdentity
  role := generateRole side
  wire := encoding
  endpointIdentity := none
  channelBinding := none

/-- What a thread sends, and how it verifies what it receives. -/
def preparation (plan : PreparedPlan) (encoding : WireEncoding) (side : Side) : Preparation where
  own := preface plan encoding side
  verify peer := peer.verifyPeer plan (generateRole side.other) encoding

theorem encoding_forPlan : (EnvelopeCodec.forPlan encoding plan).encoding = encoding := by
  cases encoding <;> rfl

variable (known : ∀ side, (plan.endpoint (generateRole side)).isSome = true)

include known

/-- Both threads of a demo are prepared for each other. -/
theorem prepare_thread (side : Side) :
    NetworkTransport.prepare { kind := demo.kind, codec := .forPlan encoding plan } plan
      (generateRole side) (generateRole side.other) = .ok (preparation plan encoding side) := by
  have verified : (EnvelopeCodec.forPlan encoding plan).verifyPlan plan = .ok () := by
    cases encoding with
    | reference => rfl
    | compact =>
        simp only [EnvelopeCodec.forPlan, EnvelopeCodec.verifyPlan, Checked.check_bind_eq_ok_iff,
          requireSessionField_eq_ok_iff, and_self]
  have distinct : generateRole side ≠ generateRole side.other := by
    cases side <;> simp [generateRole, Side.other]
  have own : localSessionPreface (.forPlan encoding plan) plan (generateRole side)
      (generateRole side.other) = .ok (preface plan encoding side) := by
    simp only [localSessionPreface, SessionPreface.forPlan, Checked.check_bind_eq_ok_iff,
      Checked.ensure_eq_ok_iff]
    refine ⟨verified, known _, distinct, known side, ?_⟩
    rw [encoding_forPlan]
    rfl
  cases demo <;> simp only [NetworkTransport.prepare, kind, own, encoding_forPlan] <;> rfl

theorem verify_preface (side : Side) :
    (preparation plan encoding side).verify (preparation plan encoding side.other).own =
      .ok () := by
  simp only [preparation, SessionPreface.verifyPeer, Checked.check_bind_eq_ok_iff,
    requireSessionField_eq_ok_iff, Checked.ensure_eq_ok_iff]
  exact ⟨known _, rfl, rfl, rfl, rfl, rfl, rfl⟩

variable {α : Type} (rereads : crates.RereadsPrefaces) {encoded : Side → List UInt8}
  (encodes : ∀ side, encodeSessionPreface crates (preparation plan encoding side).own =
    .ok (encoded side))

include rereads encodes

/-- The threads establish their session. -/
theorem steps_session
    (role : Side → Program TransportOp TransportOp.Answer (Except Halt α)) :
    Relation.ReflTransGen (Step Flows)
      ⟨Side.pair [] [], (demo.threads crates encoding plan role).program⟩
      ⟨Side.pair [] [], fun side =>
        demo.carryOut crates (demo.inSession (.forPlan encoding plan)) (role side)⟩ := by
  apply @steps_of_completes _ encoded
  intro side
  let transport : NetworkTransport := { kind := demo.kind, codec := .forPlan encoding plan }
  have made := @prepare_thread demo encoding plan known side
  have starts := @NetworkTransport.start_establishSession crates transport plan
    (generateRole side) (generateRole side.other)
  rw [made] at starts
  rcases @exists_complete_path _ _ _ transport demo.kind rereads _ _ (encodes side)
    (encodes side.other) (verify_preface known side) with
    ⟨telling, hearing, judging, concluding, path, told, heard, judged, concluded⟩
  refine ⟨telling, hearing, judging, concluding, ?_, told, heard, judged, concluded⟩
  have same : (demo.threads crates encoding plan role).program side =
      (NetworkTransport.establishSession crates plan (generateRole side)
        (generateRole side.other)).start transport >>= fun ended => match ended.1 with
          | .error error => .done (.error (.error error))
          | .ok _ => demo.carryOut crates ended.2 (role side) := rfl
  rw [same, starts]
  exact path.bind_left _

/-- Where two roles end that talk on reliable channels, there the threads of a demo end. -/
theorem threads_end {role : Side → Program TransportOp TransportOp.Answer (Except Halt α)}
    {next : (side : Side) → Except RuntimeError Unit →
      Program TransportOp TransportOp.Answer (Except Halt α)}
    {result : Side → Except Halt α}
    (talks : Relation.ReflTransGen (Step (Channels.Talks crates (.forPlan encoding plan)))
      { environment := { queue := Side.pair [] [] }, program := role }
      { environment := { queue := Side.pair [] [] }
        program := fun side => .call (.finish (generateRole side)) (next side) })
    (returns : ∀ side, next side (Except.ok ()) = .done (result side))
    {last : Program.Network Side (Pipes UInt8) (StreamOp UInt8)
      (StreamOp.Answer UInt8 StreamError) (Except Halt α)}
    (steps : Relation.ReflTransGen (Step Reliable) (demo.threads crates encoding plan role) last)
    (stuck : last.Stuck Reliable) (side : Side) : last.program side = .done (result side) := by
  have readable : Channels.Readable crates (demo.inSession (.forPlan encoding plan)).codec
      { queue := Side.pair [] [] } := by
    intro one envelope member
    cases one <;> cases member
  have carried := @steps_of_talks crates demo (Except Halt α)
    (demo.inSession (.forPlan encoding plan)) _ _ rfl readable talks
  have wired : Channels.wire crates (.forPlan encoding plan) { queue := Side.pair [] [] } =
      Side.pair [] [] := by
    funext one
    cases one <;> rfl
  have empty : (fun _ => [] : Side → List UInt8) = Side.pair [] [] := by
    funext one
    cases one <;> rfl
  have session := @steps_session crates demo encoding plan known α rereads encoded encodes role
  have whole := Relation.ReflTransGen.trans session (by
    simpa only [StreamTransport.carried, inSession, wired] using carried)
  rcases Program.exists_logged_steps whole fun _ => [] with ⟨log, logged⟩
  have started : (⟨(Side.pair [] [], fun _ => []),
      (demo.threads crates encoding plan role).program⟩ : Program.Network Side _ _
        (StreamOp.Answer UInt8 StreamError) _) =
        Streaming.fresh (demo.threads crates encoding plan role).program := by
    rw [Streaming.fresh, empty]
  rw [started] at logged
  rcases exists_ends returns logged with ⟨inFlight, events, ends, orderly⟩
  exact done_of_stuck ends orderly steps stuck side

end Session

end StreamTransport

/-! ## The generate workload -/

namespace Generate

open StreamTransport (preface preparation)

variable {crates : Crates} {encoding : WireEncoding}

theorem known (side : Side) : ((Conversation.generate.preparedPlan crates).endpoint
    (generateRole side)).isSome = true := by
  cases side <;> rfl

theorem exists_preface (concise : crates.Concise) (side : Side) :
    ∃ encoded, encodeSessionPreface crates
      (preparation (Conversation.generate.preparedPlan crates) encoding side).own =
        .ok encoded := by
  refine ⟨_, encodeSessionPreface_of_extent concise ?_⟩
  have identity : (Conversation.generate.preparedPlan crates).conversationIdentity.length = 71 :=
    length_sha256Identity _ _
  have planIdentity : (Conversation.generate.preparedPlan crates).planIdentity.length = 71 :=
    length_sha256Identity _ _
  have named : (Conversation.generate.preparedPlan crates).conversation = "example.generate" := rfl
  have letters : "example.generate".length = 16 := rfl
  have role : (generateRole side).length = 6 := by cases side <;> rfl
  have wire : encoding.asStr.length ≤ 9 := by cases encoding <;> decide
  have version : sessionFormat.length = 5 := rfl
  simp only [preparation]
  rw [SessionPreface.extent_toJson ⟨rfl, rfl⟩]
  simp only [preface, identity, planIdentity, named, letters, role, version]
  omega

/-- The roles of the demo go on until both have only to finish their transports. -/
theorem talks_generate (reads : crates.ReadsBack) (concise : crates.Concise) {prompt : String}
    {tokenLimit fuel : ℕ} {cancelAfter : Option ℕ} (positive : cancelAfter ≠ some 0)
    (enough : tokenLimit + 2 ≤ fuel) :
    ∃ trace, trace.length = 3 * delivered tokenLimit cancelAfter + 2 ∧
      ∀ transport encoding, (∃ encoded, (EnvelopeCodec.forPlan encoding
          (Conversation.generate.preparedPlan crates)).encode crates
            (promptEnvelope crates prompt) = .ok encoded) →
        Relation.ReflTransGen (GenerateTalk crates encoding)
          (atStart crates transport prompt cancelAfter tokenLimit fuel)
          (atClose crates transport (tokenIds (delivered tokenLimit cancelAfter)) trace) := by
  have uncancelled : ∀ limit, cancelAfter = some limit → 0 < limit := by
    intro limit same
    apply Nat.pos_of_ne_zero
    intro zero
    rw [zero] at same
    exact positive same
  rcases @talks_rounds crates reads concise cancelAfter tokenLimit tokenLimit 0 fuel
    [promptFrame prompt] (Nat.zero_add _).symm uncancelled enough rfl with ⟨trace, length, rounds⟩
  refine ⟨trace, length, ?_⟩
  rintro transport encoding ⟨encoded, written⟩
  exact (talks_prompt reads transport prompt cancelAfter tokenLimit fuel written).trans
    (rounds transport encoding)

/-- A role whose conversation has ended finishes its transport and reports. -/
theorem exists_finish (transport : String) (side : Side) (tokens : List UInt64)
    (trace : List Frame) :
    ∃ next, (atClose crates transport tokens trace).program side =
        .call (.finish (generateRole side)) next ∧
      next (Except.ok ()) = .done (.ok (reported crates side transport tokens trace)) := by
  have path : Path ((atClose crates transport tokens trace).program side) [closed side]
      (.done (.ok (reported crates side transport tokens trace))) := by
    cases side <;> exact (path_conclude _ transport tokens trace).bind_left _
  rcases path.exists_call with ⟨next, calls, rest⟩
  exact ⟨next, calls, rest.eq_of_nil⟩

theorem networkThreads_eq {prompt : String} {tokenLimit fuel : ℕ} {cancelAfter : Option ℕ}
    {demo : StreamTransport} (positive : cancelAfter ≠ some 0) :
    networkThreads crates (Conversation.generate.preparedPlan crates) prompt tokenLimit cancelAfter
        demo encoding fuel =
      demo.threads crates encoding (Conversation.generate.preparedPlan crates)
        (atStart crates (demo.plan encoding) prompt cancelAfter tokenLimit fuel).program := by
  simp only [networkThreads, roles_eq positive]

/-- The threads end with what the roles report, whatever carries them. -/
theorem networkThreads_end (reads : crates.ReadsBack) (concise : crates.Concise)
    {demo : StreamTransport} {prompt : String} {tokenLimit fuel : ℕ} {cancelAfter : Option ℕ}
    {tokens : List UInt64} {trace : List Frame} (positive : cancelAfter ≠ some 0)
    (talked : Relation.ReflTransGen (GenerateTalk crates encoding)
      (atStart crates (demo.plan encoding) prompt cancelAfter tokenLimit fuel)
      (atClose crates (demo.plan encoding) tokens trace))
    {last : Program.Network Side (Pipes UInt8) (StreamOp UInt8)
      (StreamOp.Answer UInt8 StreamError) (Except Halt ExecutionReport)}
    (steps : Relation.ReflTransGen (Step Reliable)
      (networkThreads crates (Conversation.generate.preparedPlan crates) prompt tokenLimit
        cancelAfter demo encoding fuel) last)
    (stuck : last.Stuck Reliable) (side : Side) :
    last.program side = .done (.ok (reported crates side (demo.plan encoding) tokens trace)) := by
  rw [networkThreads_eq positive] at steps
  choose next calls returns using fun side =>
    @exists_finish crates (demo.plan encoding) side tokens trace
  choose encoded encodes using fun side => @exists_preface crates encoding concise side
  have closing : atClose crates (demo.plan encoding) tokens trace =
      { environment := { queue := Side.pair [] [] }
        program := fun side => .call (.finish (generateRole side)) (next side) } := by
    rw [Program.Network.mk.injEq]
    exact ⟨rfl, funext calls⟩
  rw [closing] at talked
  exact StreamTransport.threads_end known reads.rereadsPrefaces encodes talked returns steps
    stuck side

end Generate

end Colloq
