import Colloq.FaultHistory
import Colloq.NetworkDemo
import Colloq.SessionReports

/-!
# The outcomes of two threads whose connection may be cut

A role tells the peer what it has uttered and hears a part of what the peer has. A
successful role has said everything it has to say, and on QUIC it has heard that the peer
is done as well. So two successful reports tell one story, wherever the connection was
cut, and on QUIC a peer cannot return a report of another outcome.
-/

namespace Colloq

open Program (Answered Discipline Follows Path Step)
open Program.Stateful (Ensures start_bind_of_done start_ofExcept)
open Streaming
open TurnTaking (Side)

/-! ## The commands -/

/-- The roles of the two sides, each on its own plan. -/
def generateRoles (crates : Crates) (demo : StreamTransport) (plan : Side → PreparedPlan)
    (encoding : Side → WireEncoding) (prompt : String) (tokenLimit : ℕ)
    (cancelAfter : Option ℕ) (fuel : ℕ) : Side → RoleProgram :=
  Side.pair
    (runGenerateClientPlan crates (plan .left) (demo.plan (encoding .left)) prompt cancelAfter fuel)
    (runGenerateServerPlan crates (plan .right) (demo.plan (encoding .right)) tokenLimit fuel)

/-- What `connect` and `serve`, or the two threads of a demo, run on one connection: each side has
compiled its own conversation and chosen its own encoding. -/
def commands (crates : Crates) (demo : StreamTransport) (plan : Side → PreparedPlan)
    (encoding : Side → WireEncoding) (prompt : String) (tokenLimit : ℕ)
    (cancelAfter : Option ℕ) (fuel : ℕ) :
    Program.Network Side (Pipes UInt8) (StreamOp UInt8) (StreamOp.Answer UInt8 StreamError)
      (Except Halt ExecutionReport) where
  environment _ := {}
  program side := demo.thread crates (encoding side) (plan side) (generateRole side)
    (generateRole side.other)
    (generateRoles crates demo plan encoding prompt tokenLimit cancelAfter fuel side)

/-! ## What a role has said and heard -/

/-- The envelopes that a role has sent and accepted. -/
structure Dialogue where
  said : List WireEnvelope
  heard : List WireEnvelope

def Dialogue.say (dialogue : Dialogue) (envelope : WireEnvelope) : Dialogue :=
  { dialogue with said := dialogue.said ++ [envelope] }

def Dialogue.hear (dialogue : Dialogue) (envelope : WireEnvelope) : Dialogue :=
  { dialogue with heard := dialogue.heard ++ [envelope] }

/-- How a role stands to its connection. -/
inductive Standing where
  | open (dialogue : Dialogue)
  | broken
  | closed (dialogue : Dialogue)
  | unclosed

namespace Standing

def sent (dialogue : Dialogue) (envelope : WireEnvelope) : Except RuntimeError Unit → Standing
  | .ok () => .open (dialogue.say envelope)
  | .error _ => .broken

def received (dialogue : Dialogue) : Except RuntimeError WireEnvelope → Standing
  | .ok envelope => .open (dialogue.hear envelope)
  | .error _ => .broken

def finished (dialogue : Dialogue) : Except RuntimeError Unit → Standing
  | .ok () => .closed dialogue
  | .error _ => .unclosed

/-- The calls of a role: after the first that fails it only aborts. -/
inductive Calls : Discipline TransportOp TransportOp.Answer Standing where
  | send (dialogue : Dialogue) (envelope : WireEnvelope) :
      Calls (.open dialogue) (.send envelope) (sent dialogue envelope)
  | receive (dialogue : Dialogue) : Calls (.open dialogue) .receive (received dialogue)
  | abort : Calls .broken .abort fun _ => .broken
  | finish (dialogue : Dialogue) (role : String) :
      Calls (.open dialogue) (.finish role) (finished dialogue)

end Standing

/-! ## What the frames on the connection say -/

/-- The payloads of what a role has said and heard. -/
structure Dialogue.Carried (crates : Crates) (codec : EnvelopeCodec) (dialogue : Dialogue)
    (said heard : List (List UInt8)) : Prop where
  encodes : List.Forall₂ (fun envelope payload => codec.encode crates envelope = .ok payload)
    dialogue.said said
  decodes : List.Forall₂ (fun envelope payload => codec.decode crates payload = .ok envelope)
    dialogue.heard heard
  limited : ∀ payload ∈ heard, payload.length ≤ maxEnvelopeBytes

/-- The payloads whose frames end a successful session: on QUIC the close marker is an empty one. -/
def StreamTransport.closing : StreamTransport → List (List UInt8)
  | .tcp => []
  | .quic => [[]]

/-- The bytes of a role, by how it stands. -/
def Standing.Linked (crates : Crates) (demo : StreamTransport) (codec : EnvelopeCodec)
    (transcript : Transcript UInt8) : Standing → NetworkTransport → Prop
  | .open dialogue, transport => transport = demo.inSession codec ∧
      ∃ said heard, dialogue.Carried crates codec said heard ∧
        transcript = ⟨said.flatMap frame, heard.flatMap frame⟩
  | .broken, _ => ∃ said : List (List UInt8),
      (∀ payload ∈ said, payload ≠ [] ∧ payload.length ≤ maxEnvelopeBytes) ∧
        transcript.written <+: said.flatMap frame
  | .closed dialogue, _ => ∃ said heard, dialogue.Carried crates codec said heard ∧
      transcript = ⟨(said ++ demo.closing).flatMap frame, (heard ++ demo.closing).flatMap frame⟩
  | .unclosed, _ => True

variable {crates : Crates} {demo : StreamTransport} {codec : EnvelopeCodec}
  {transport : NetworkTransport} {dialogue : Dialogue} {transcript : Transcript UInt8}
  {said heard : List (List UInt8)}

/-- What a part of a program hands over and reads, it adds to the transcript. -/
theorem Talks.append {α : Type} {program : Networking α} {during : Transcript UInt8 → Prop}
    {post : Transcript UInt8 → Except RuntimeError α → NetworkTransport → Prop}
    (talks : Talks during post {} transport program) (before : Transcript UInt8) :
    Follows (Transcribed fun _ => True)
      (fun whole (ended : Except RuntimeError α × NetworkTransport) =>
        ∃ added, post added ended.1 ended.2 ∧
          whole = ⟨before.written ++ added.written, before.received ++ added.received⟩)
      before (program.start transport) := by
  simpa using follows_transcribed_append before talks

namespace Dialogue.Carried

variable (carried : dialogue.Carried crates codec said heard) {envelope : WireEnvelope}
  {payload : List UInt8}

include carried

theorem say (written : codec.encode crates envelope = .ok payload) :
    (dialogue.say envelope).Carried crates codec (said ++ [payload]) heard where
  encodes := List.rel_append carried.encodes (.cons written .nil)
  decodes := carried.decodes
  limited := carried.limited

theorem hear (read : codec.decode crates payload = .ok envelope)
    (limited : payload.length ≤ maxEnvelopeBytes) :
    (dialogue.hear envelope).Carried crates codec said (heard ++ [payload]) where
  encodes := carried.encodes
  decodes := List.rel_append carried.decodes (.cons read .nil)
  limited := by
    intro other member
    rw [List.mem_append, List.mem_singleton] at member
    rcases member with before | same
    · exact carried.limited other before
    · rw [same]
      exact limited

end Dialogue.Carried

namespace Standing.Linked

variable (never : crates.NeverEmpty)

include never

/-- A role whose call fails has told no more than what it wanted to. -/
theorem broken (carried : dialogue.Carried crates codec said heard)
    {told : List UInt8} (begun : told <+: said.flatMap frame) :
    ∃ said : List (List UInt8),
      (∀ payload ∈ said, payload ≠ [] ∧ payload.length ≤ maxEnvelopeBytes) ∧
        told <+: said.flatMap frame :=
  ⟨said, documents_of_encoded never carried.encodes, begun⟩

/-- After a send the dialogue has one frame more, or is broken. -/
theorem follows_send (envelope : WireEnvelope)
    (linked : (Standing.open dialogue).Linked crates demo codec transcript transport) :
    Follows (Transcribed fun _ => True)
      (fun transcript (answered : Except RuntimeError Unit × NetworkTransport) =>
        (Standing.sent dialogue envelope answered.1).Linked crates demo codec transcript answered.2)
      transcript ((NetworkTransport.send crates envelope).start transport) := by
  rcases linked with ⟨same, said, heard, carried, transcriptEq⟩
  subst same transcriptEq
  rw [NetworkTransport.send, start_bind_of_done rfl,
    NetworkTransport.requireSession_of_established rfl, start_bind_of_done (start_ofExcept _)]
  cases encodes : (demo.inSession codec).codec.encode crates envelope with
  | error error => exact broken never carried List.prefix_rfl
  | ok payload =>
      have limited := (EnvelopeCodec.exists_document encodes).2
      have writes := @talks_writeFrame (demo.inSession codec) demo.kind .envelopeTooLarge _
        (lt_size_of_le_maxEnvelopeBytes limited)
      rw [start_bind_of_done (start_ofExcept _)]
      refine Follows.mono ?_ (writes.append _)
      rintro _ ⟨result, after⟩ ⟨added, ⟨kept, silent, begun, whole⟩, rfl⟩
      have carries := carried.say encodes
      cases result with
      | error error =>
          apply broken never carries
          simpa using begun
      | ok sent =>
          refine ⟨kept, _, _, carries, ?_⟩
          simp [whole rfl, silent]

/-- After a receive it has the frame that the peer has written, or is broken. -/
theorem follows_receive
    (linked : (Standing.open dialogue).Linked crates demo codec transcript transport) :
    Follows (Transcribed fun _ => True)
      (fun transcript (answered : Except RuntimeError WireEnvelope × NetworkTransport) =>
        (Standing.received dialogue answered.1).Linked crates demo codec transcript answered.2)
      transcript ((NetworkTransport.receive crates).start transport) := by
  rcases linked with ⟨same, said, heard, carried, transcriptEq⟩
  subst same transcriptEq
  rw [NetworkTransport.receive, start_bind_of_done rfl,
    NetworkTransport.requireSession_of_established rfl, start_bind_of_done (start_ofExcept _)]
  have reads := @talks_readFrame (demo.inSession codec) demo.kind .envelopeTooLarge
    maxEnvelopeBytes
  have patient : demo.kind.abortOversized = pure () := by cases demo <;> rfl
  rw [patient] at reads
  rw [Program.Stateful.start_bind]
  refine Follows.bind (reads.append _) ?_
  rintro _ ⟨result, after⟩ ⟨added, ⟨kept, silent, framed⟩, rfl⟩
  cases result with
  | error error =>
      apply broken never carried
      simp [silent]
  | ok payload =>
      rcases framed payload rfl with ⟨limited, read⟩
      simp only at kept
      subst kept
      simp only [start_ofExcept]
      cases decodes : (demo.inSession codec).codec.decode crates payload with
      | error error =>
          apply broken never carried
          simp [silent]
      | ok envelope =>
          refine ⟨rfl, _, _, carried.hear decodes limited, ?_⟩
          simp [silent, read]

omit never in
/-- The closing exchange ends the dialogue without another frame. -/
theorem follows_finish (role : String)
    (linked : (Standing.open dialogue).Linked crates demo codec transcript transport) :
    Follows (Transcribed fun _ => True)
      (fun transcript (answered : Except RuntimeError Unit × NetworkTransport) =>
        (Standing.finished dialogue answered.1).Linked crates demo codec transcript answered.2)
      transcript ((demo.finish role).start transport) := by
  rcases linked with ⟨same, said, heard, carried, transcriptEq⟩
  subst same transcriptEq
  cases demo with
  | tcp => exact ⟨said, heard, carried, by simp [StreamTransport.closing]⟩
  | quic =>
      have markers := @talks_finish_markers (StreamTransport.inSession .quic codec) role rfl
      refine Follows.mono ?_ (markers.append _)
      rintro _ ⟨result, after⟩ ⟨added, holds, rfl⟩
      cases result with
      | error error => trivial
      | ok finished =>
          rcases holds rfl with ⟨told, read⟩
          refine ⟨said, heard, carried, ?_⟩
          simp only [told, read, List.flatMap_append]
          rfl

/-- The bytes of a role stay what its calls say. -/
theorem follows_handle {op : TransportOp} {standing : Standing} {next : op.Answer → Standing}
    (linked : standing.Linked crates demo codec transcript transport)
    (calls : Standing.Calls standing op next) :
    Follows (Transcribed fun _ => True)
      (fun transcript (answered : op.Answer × NetworkTransport) =>
        (next answered.1).Linked crates demo codec transcript answered.2)
      transcript (demo.handle crates op transport) := by
  cases calls with
  | send dialogue envelope => exact follows_send never envelope linked
  | receive dialogue => exact follows_receive never linked
  | finish dialogue role => exact follows_finish role linked
  | abort =>
      refine ⟨_, ⟨trivial, rfl⟩, ?_⟩
      intro answer
      rw [Transcript.answer_close]
      exact linked

end Standing.Linked

/-! ## What a role has recorded -/

/-- The trace of a role tells what it has said and heard, each in its order. -/
structure Dialogue.Tells (crates : Crates) (codec : EnvelopeCodec) (conversation : Conversation)
    (role : String) (dialogue : Dialogue) (trace : List Frame) (final : String) : Prop where
  ran : (conversation.protocol role).run conversation.initial trace = some final
  said_eq : dialogue.said.map WireEnvelope.frame = trace.filter (·.author = some role)
  heard_eq : dialogue.heard.map WireEnvelope.frame = trace.filter (·.author ≠ some role)
  passes : ∀ envelope ∈ dialogue.said, ∀ encoded, codec.encode crates envelope = .ok encoded →
    codec.decode crates encoded = .ok envelope

namespace Recorder

/-- A role that no call has failed. -/
structure Unbroken (crates : Crates) (conversation : Conversation) (encoding : WireEncoding)
    (role : String) (standing : Standing) (recorder : Recorder) : Prop where
  executes : recorder.machine.Executes conversation
  runs : recorder.machine.Runs (conversation.preparedPlan crates)
  role_eq : recorder.machine.role = role
  tells : ∃ dialogue, standing = .open dialogue ∧
    dialogue.Tells crates (.forPlan encoding (conversation.preparedPlan crates)) conversation role
      recorder.trace recorder.machine.current

/-- A role that has observed the failure of a call. -/
structure Broken (standing : Standing) (recorder : Recorder) : Prop where
  standing_eq : standing = .broken
  unsuccessful : recorder.machine.isSuccessful = some false

end Recorder

section Tells

variable {conversation : Conversation} {role : String} {trace : List Frame} {current next : String}
  {envelope : WireEnvelope} {frame : Frame}
  (tells : dialogue.Tells crates codec conversation role trace current)

include tells

theorem Dialogue.Tells.say (author : envelope.frame.author = some role)
    (allowed : conversation.next current envelope.frame = some next)
    (passes : ∀ encoded, codec.encode crates envelope = .ok encoded →
      codec.decode crates encoded = .ok envelope) :
    (dialogue.say envelope).Tells crates codec conversation role (trace ++ [envelope.frame])
      next where
  ran := by
    apply TurnTaking.Protocol.run_snoc _ tells.ran
    simp [Conversation.protocol, author, allowed]
  said_eq := by simp [Dialogue.say, tells.said_eq, List.filter_append, author]
  heard_eq := by simp [Dialogue.say, tells.heard_eq, List.filter_append, author]
  passes := by
    intro other member
    simp only [Dialogue.say, List.mem_append, List.mem_singleton] at member
    rcases member with before | same
    · exact tells.passes other before
    · rw [same]
      exact passes

theorem Dialogue.Tells.hear {peer : String} (author : envelope.frame.author = some peer)
    (foreign : peer ≠ role) (allowed : conversation.next current envelope.frame = some next) :
    (dialogue.hear envelope).Tells crates codec conversation role (trace ++ [envelope.frame])
      next where
  ran := by
    apply TurnTaking.Protocol.run_snoc _ tells.ran
    simp [Conversation.protocol, author, allowed]
  said_eq := by simp [Dialogue.hear, tells.said_eq, List.filter_append, author, foreign]
  heard_eq := by simp [Dialogue.hear, tells.heard_eq, List.filter_append, author, foreign]
  passes := tells.passes

end Tells

namespace Recording

open Recorder (Unbroken Broken)

variable {conversation : Conversation} {encoding : WireEncoding} {role : String}

/-- A role tells its connection what it records, until a call fails. -/
theorem speaks_calls (compilable : conversation.Compilable) (reads : crates.ReadsBack) :
    Speaks Standing.Calls (Unbroken crates conversation encoding role) Broken where
  send := by
    intro standing recorder action envelope machine unbroken plain performed
    rcases unbroken with ⟨executes, runs, roleEq, dialogue, same, tells⟩
    subst same
    have moves := EndpointMachine.Step.perform performed
    have built : (conversation.preparedPlan crates).Built crates :=
      .compile (Conversation.preparedPlan_compile_eq_ok_iff.mpr ⟨compilable, rfl⟩)
    have carries := built.sound.carries_of_perform runs performed
    rcases executes.perform_eq_ok_iff.mp performed with
      ⟨frame, next, _, author, allowed, sealed, moved⟩
    have hasState := executes.wellFormed.hasState_next allowed
    have sameFrame : envelope.frame = frame := by rw [sealed]; rfl
    rw [← sameFrame] at author allowed
    rw [roleEq] at author
    have told := tells.say author allowed fun encoded written =>
      carries.decode_of_plain reads performed plain built.sound written
    apply follows_sendAndRecord (.send dialogue envelope)
    · intro _ same
      rw [← Except.ok.inj same]
      have stays : machine.Executes conversation ∧ machine.role = role ∧
          machine.current = next := by
        rw [moved]
        exact ⟨executes.moved hasState, roleEq, rfl⟩
      refine ⟨stays.1, runs.step moves, stays.2.1, _, rfl, ?_⟩
      rw [stays.2.2]
      exact told
    · intro _ _ _ same
      simp at same
    · intro error failure named
      refine ⟨_, .abort, ?_, by simp, by simp⟩
      intro fault after observed sent same
      rw [← Except.ok.inj same]
      have movedExecutes : machine.Executes conversation := by
        rw [moved]
        exact executes.moved hasState
      have faulted := @Recorder.faulted_of_observed conversation role machine after
        ⟨recorder.machine, []⟩ error _ failure fault movedExecutes (by rw [moved]; exact roleEq)
        named observed
      exact ⟨rfl, faulted.unsuccessful⟩
  receive := by
    intro standing recorder unbroken
    rcases unbroken with ⟨executes, runs, roleEq, dialogue, same, tells⟩
    subst same
    apply follows_receiveAndRecord (.receive dialogue)
    · intro envelope
      refine ⟨?_, by simp, by simp⟩
      intro frame machine accepted _ same
      rw [← Except.ok.inj same]
      have moves := EndpointMachine.Step.accept accepted
      rcases executes.accept_eq_ok_iff.mp accepted with
        ⟨sealed, ⟨peer, author, foreign⟩, next, allowed, moved⟩
      have sameFrame : envelope.frame = frame := by rw [sealed]; rfl
      rw [← sameFrame] at author allowed ⊢
      rw [roleEq] at foreign
      have stays : machine.Executes conversation ∧ machine.role = role ∧
          machine.current = next := by
        rw [moved]
        exact ⟨executes.moved (executes.wellFormed.hasState_next allowed), roleEq, rfl⟩
      refine ⟨stays.1, runs.step moves, stays.2.1, _, rfl, ?_⟩
      rw [stays.2.2]
      exact tells.hear author foreign allowed
    · intro _ _ _ same
      simp at same
    · intro error failure named
      refine ⟨_, .abort, ?_, by simp, by simp⟩
      intro fault after observed received same
      rw [← Except.ok.inj same]
      have faulted := @Recorder.faulted_of_observed conversation role recorder.machine after
        ⟨recorder.machine, []⟩ error _ failure fault executes roleEq named observed
      exact ⟨rfl, faulted.unsuccessful⟩

/-- How a role stands when it returns its report: a successful one has closed its connection. -/
def Returns (crates : Crates) (conversation : Conversation) (encoding : WireEncoding)
    (role : String) (standing : Standing) (report : ExecutionReport) : Prop :=
  (report.successful = true → ∃ dialogue, standing = .closed dialogue ∧ ∃ final,
    dialogue.Tells crates (.forPlan encoding (conversation.preparedPlan crates)) conversation role
      report.semanticTrace final) ∧
  (report.successful = false → standing = .broken ∨ ∃ dialogue, standing = .open dialogue)

variable {standing : Standing} {recorder : Recorder} {transport : String} {tokens : List UInt64}

/-- A report of a role that has not finished its transport is not successful. -/
theorem returns_report (left : Left (Unbroken crates conversation encoding role) Broken standing
      recorder) (unsuccessful : recorder.machine.isSuccessful = some false) :
    Ensures Standing.Calls
      (fun standing report _ => Returns crates conversation encoding role standing report)
      standing recorder (report crates transport tokens) := by
  apply ensures_report.mono
  rintro _ report _ ⟨rfl, rfl, describes⟩
  have failed : report.successful = false := by
    have same := describes.successful_eq.symm.trans unsuccessful
    simpa using same
  refine ⟨by simp [failed], fun _ => ?_⟩
  rcases left with unbroken | broken
  · rcases unbroken.tells with ⟨dialogue, same, _⟩
    exact .inr ⟨dialogue, same⟩
  · exact .inl broken.standing_eq

/-- A role that concludes returns a report of the dialogue that it has had. -/
theorem returns_conclude (left : Left (Unbroken crates conversation encoding role) Broken standing
      recorder) :
    Ensures Standing.Calls
      (fun standing report _ => Returns crates conversation encoding role standing report)
      standing recorder (conclude crates transport tokens) := by
  apply ensures_inspect.bind
  intro later successful next holds
  rcases holds with ⟨same, sameRecorder, successfulEq⟩
  subst later next
  cases successful with
  | false => exact returns_report left successfulEq
  | true =>
      rcases left with unbroken | broken
      · rcases unbroken.tells with ⟨dialogue, same, tells⟩
        subst same
        apply Ensures.get_bind
        refine Program.Stateful.Follows.ask_bind (.finish dialogue recorder.machine.role)
          fun answer => ?_
        cases answer with
        | error error => exact Ensures.throw
        | ok finished =>
            apply ensures_report.mono
            rintro _ report _ ⟨rfl, rfl, describes⟩
            have succeeded : report.successful = true := by
              have same := describes.successful_eq.symm.trans successfulEq
              simpa using same
            refine ⟨fun _ => ⟨dialogue, rfl, ?_⟩, by simp [succeeded]⟩
            rw [describes.trace_eq]
            exact ⟨_, tells⟩
      · rw [broken.unsuccessful] at successfulEq
        simp at successfulEq

theorem unbroken_initial (compilable : conversation.Compilable)
    (hasRole : conversation.HasRole role) :
    Unbroken crates conversation encoding role (.open ⟨[], []⟩)
      { machine := conversation.initialMachine crates role, trace := [] } where
  executes := compilable.executes_initialMachine hasRole
  runs := ⟨Conversation.mem_endpoints_preparedPlan.mpr ⟨role, hasRole, rfl⟩, rfl⟩
  role_eq := rfl
  tells := ⟨_, rfl, rfl, rfl, rfl, by simp⟩

/-- The bodies of the roles, run on the machine that the plan creates. -/
theorem follows_runRole {body : Recording ExecutionReport}
    (compilable : conversation.Compilable)
    (ensures : ∀ recorder, Unbroken crates conversation encoding role (.open ⟨[], []⟩) recorder →
      Ensures Standing.Calls
        (fun standing report _ => Returns crates conversation encoding role standing report)
        (.open ⟨[], []⟩) recorder body) :
    Follows Standing.Calls (fun standing result => ∀ report, result = Except.ok report →
      Returns crates conversation encoding role standing report) (.open ⟨[], []⟩)
      (runRole (conversation.preparedPlan crates) role body) := by
  rw [runRole]
  rcases created : EndpointMachine.fromPlan (conversation.preparedPlan crates) role with
    error | machine
  · simp
  · rcases Conversation.fromPlan_preparedPlan_eq_ok_iff.mp created with ⟨hasRole, rfl⟩
    apply Follows.mono _ (ensures _ (unbroken_initial compilable hasRole)).result
    intro standing result holds report same
    rcases holds report same with ⟨_, returns⟩
    exact returns

end Recording

/-! ## The end of a thread -/

namespace StreamTransport

open Recording (Returns)

variable {conversation : Conversation} {encoding : WireEncoding} {role peerRole : String}
  {report : ExecutionReport}

/-- What the bytes of a role say about the report that it returns. -/
def Outcome (crates : Crates) (demo : StreamTransport) (conversation : Conversation)
    (encoding : WireEncoding) (role : String) (transcript : Transcript UInt8)
    (report : ExecutionReport) : Prop :=
  (report.successful = true → ∃ (dialogue : Dialogue) (said heard : List (List UInt8))
      (final : String),
    dialogue.Carried crates (.forPlan encoding (conversation.preparedPlan crates)) said heard ∧
      transcript = ⟨(said ++ demo.closing).flatMap frame, (heard ++ demo.closing).flatMap frame⟩ ∧
      dialogue.Tells crates (.forPlan encoding (conversation.preparedPlan crates)) conversation role
        report.semanticTrace final) ∧
  (report.successful = false → ∃ said : List (List UInt8),
    (∀ payload ∈ said, payload ≠ [] ∧ payload.length ≤ maxEnvelopeBytes) ∧
      transcript.written <+: said.flatMap frame)

/-- The transcript of a role that has returned tells its outcome. -/
theorem outcome_of_returns (never : crates.NeverEmpty) {standing : Standing}
    (linked : standing.Linked crates demo (.forPlan encoding (conversation.preparedPlan crates))
      transcript transport)
    (returns : Returns crates conversation encoding role standing report) :
    demo.Outcome crates conversation encoding role transcript report := by
  refine ⟨?_, ?_⟩
  · intro successful
    rcases returns.1 successful with ⟨dialogue, same, final, tells⟩
    subst same
    rcases linked with ⟨said, heard, carried, whole⟩
    exact ⟨dialogue, said, heard, final, carried, whole, tells⟩
  · intro unsuccessful
    rcases returns.2 unsuccessful with same | ⟨dialogue, same⟩
    · subst same
      exact linked
    · subst same
      rcases linked with ⟨_, said, heard, carried, whole⟩
      subst whole
      exact Standing.Linked.broken never carried List.prefix_rfl

/-- A role in a session, whatever its connection does. -/
theorem outcome_of_path (never : crates.NeverEmpty) {program : RoleProgram}
    {events : List (StreamEvent UInt8 StreamError)}
    (follows : Follows Standing.Calls (fun standing result => ∀ report, result = Except.ok report →
      Returns crates conversation encoding role standing report) (.open ⟨[], []⟩) program)
    (path : Path (demo.carryOut crates
      (demo.inSession (.forPlan encoding (conversation.preparedPlan crates))) program) events
        (.done (.ok report))) :
    demo.Outcome crates conversation encoding role ⟨written events, received events⟩ report := by
  have linked : (Standing.open ⟨[], []⟩).Linked crates demo
      (.forPlan encoding (conversation.preparedPlan crates)) {}
      (demo.inSession (.forPlan encoding (conversation.preparedPlan crates))) :=
    ⟨rfl, [], [], ⟨.nil, .nil, by simp⟩, rfl⟩
  have implemented := follows.implement
    (fun linked calls => Standing.Linked.follows_handle never linked calls) linked
  have whole : Follows (Transcribed fun _ => True)
      (fun transcript result => ∀ report, result = Except.ok report →
        demo.Outcome crates conversation encoding role transcript report) {}
      (demo.carryOut crates
        (demo.inSession (.forPlan encoding (conversation.preparedPlan crates))) program) := by
    apply Follows.bind implemented
    rintro transcript ⟨result, after⟩ ⟨standing, linked, returns⟩ report same
    exact outcome_of_returns never linked (returns report same)
  simpa using follows_transcribed_path whole path report rfl

end StreamTransport

/-! ## The beginning of a thread -/

/-- A party whose peer has accepted it has accepted its peer. -/
theorem written_acceptPeer (kind : NetworkKind) (peer : SessionPreface) :
    Talks (fun _ => True) (fun transcript result _ => ∀ value, result = .ok value →
      transcript.written = [sessionAccepted]) {} transport (kind.acceptPeer peer) := by
  apply Talks.bind
  apply Talks.tryCatch
  have exchanges : Talks (fun _ => True)
      (fun transcript _ _ => transcript.written = [sessionAccepted]) {} transport
      kind.statusExchange := by
    apply Talks.bind
    apply talks_writeAll kind trivial
    intro told
    cases told with
    | error error => rfl
    | ok told =>
        apply Talks.bind
        apply talks_flush kind trivial
        intro flushed
        cases flushed with
        | error error => rfl
        | ok flushed =>
            apply Talks.bind
            apply talks_readExact kind trivial
            · intro items
              apply Talks.done _ (Program.Stateful.start_pure _)
              rfl
            · intro error
              rfl
  apply exchanges.mono
  intro transcript result after told
  cases result with
  | error error =>
      apply Talks.bind
      apply talks_close trivial
      apply Talks.done _ (Program.Stateful.start_throw _)
      intro value same
      cases same
  | ok status =>
      simp only [Recovers, Continues]
      split_ifs
      · apply Talks.bind
        apply talks_close trivial
        apply Talks.bind
        apply Talks.done _ (Program.Stateful.start_throw _)
        intro value same
        cases same
      · intro value _
        exact told

namespace SessionParty

variable {party : SessionParty} {peer : SessionPreface} {after : NetworkTransport}
  {events : List (StreamEvent UInt8 StreamError)}

/-- What a party has told and heard in a handshake that succeeded. -/
structure Established (crates : Crates) (party : SessionParty)
    (events : List (StreamEvent UInt8 StreamError)) (prepared : Preparation)
    (encoded peerEncoded : List UInt8) : Prop where
  made : party.prepare = .ok prepared
  encodes : encodeSessionPreface crates prepared.own = .ok encoded
  peerShort : peerEncoded.length < UInt32.size
  decodes : ∃ peer, NetworkKind.decodePeer crates prepared.verify peerEncoded = .ok peer
  told : written events = frame encoded ++ [sessionAccepted]
  heard : received events = frame peerEncoded ++ [sessionAccepted]

theorem exists_established (path : Path (party.program crates) events (.done (.ok peer, after))) :
    after = { party.transport with sessionEstablished := true } ∧
      ∃ prepared encoded peerEncoded,
        party.Established crates events prepared encoded peerEncoded := by
  rcases exists_progress path (.inr ⟨peer, after, rfl⟩) with
    ⟨prepared, encoded, made, encodes, progress⟩
  cases progress with
  | refusing told refused => exact (refused peer after rfl).elim
  | @accepting accepted peerEncoded before rest same told hears short verified _ onward =>
      have accepts := ((talks_acceptPeer _ accepted).at_done onward).2.2 peer rfl
      have wrote := (written_acceptPeer _ accepted).at_done onward peer rfl
      refine ⟨accepts.2, prepared, encoded, peerEncoded, made, encodes,
        lt_size_of_le_maxSessionPrefaceBytes short, ⟨accepted, verified⟩, ?_, ?_⟩
      · rw [same, written_append, told]
        exact congrArg _ wrote
      · rw [same, received_append, hears]
        exact congrArg _ accepts.1

namespace Established

variable {other : SessionParty} {prepared otherPrepared : Preparation}
  {encoded peerEncoded otherEncoded otherPeerEncoded : List UInt8}
  {otherEvents rest otherRest : List (StreamEvent UInt8 StreamError)}
  (own : party.Established crates events prepared encoded peerEncoded)
  (others : other.Established crates otherEvents otherPrepared otherEncoded otherPeerEncoded)

include own others

/-- The preface that a party has read is the one of its peer, and the sessions begin together. -/
theorem same_preface (heard : received (events ++ rest) <+: written (otherEvents ++ otherRest)) :
    peerEncoded = otherEncoded ∧ received rest <+: written otherRest := by
  rw [received_append, written_append, own.heard, others.told, List.append_assoc,
    List.append_assoc] at heard
  rcases same_frame own.peerShort (length_lt_of_encodeSessionPreface others.encodes).1 heard with
    ⟨same, heard⟩
  exact ⟨same, by simpa using heard⟩

theorem agrees (rereads : crates.RereadsPrefaces) (same : peerEncoded = otherEncoded)
    (otherSame : otherPeerEncoded = encoded) : party.Agrees other := by
  rcases own.decodes with ⟨_, decoded⟩
  rcases others.decodes with ⟨_, otherDecoded⟩
  rw [same] at decoded
  rw [otherSame] at otherDecoded
  exact agrees_of_verify own.made others.made
    (verify_of_decodePeer rereads others.encodes decoded).2
    (verify_of_decodePeer rereads own.encodes otherDecoded).2

end Established

end SessionParty

namespace StreamTransport

variable {encoding : WireEncoding} {plan : PreparedPlan} {localRole peerRole : String}
  {α : Type} {program : Program TransportOp TransportOp.Answer (Except Halt α)} {value : α}
  {events : List (StreamEvent UInt8 StreamError)}

/-- The party that a thread is in its handshake. -/
def party (demo : StreamTransport) (encoding : WireEncoding) (plan : PreparedPlan)
    (localRole peerRole : String) : SessionParty where
  transport := { kind := demo.kind, codec := .forPlan encoding plan }
  plan
  localRole
  peerRole

/-- A thread that returns a value has established its session and gone through its role. -/
theorem path_thread
    (path : Path (demo.thread crates encoding plan localRole peerRole program) events
      (.done (.ok value))) :
    ∃ before rest prepared encoded peerEncoded, events = before ++ rest ∧
      (demo.party encoding plan localRole peerRole).Established crates before prepared encoded
        peerEncoded ∧
      Path (demo.carryOut crates (demo.inSession (.forPlan encoding plan)) program) rest
        (.done (.ok value)) := by
  rcases Path.of_bind path with
    ⟨_, _, _, same⟩ | ⟨⟨session, after⟩, before, rest, same, begun, onward⟩
  · cases same
  · cases session with
    | error error =>
        have onward : Path (.done (Except.error (Halt.error error))) rest (.done (.ok value)) :=
          onward
        cases onward
    | ok peer =>
        have begun : Path ((demo.party encoding plan localRole peerRole).program crates) before
            (.done (.ok peer, after)) :=
          begun
        rcases SessionParty.exists_established begun with
          ⟨kept, prepared, encoded, peerEncoded, established⟩
        subst kept
        exact ⟨before, rest, prepared, encoded, peerEncoded, same, established, onward⟩

theorem path_role {transport : NetworkTransport} {result : Except Halt α}
    (path : Path (demo.carryOut crates transport program) events (.done result)) :
    ∃ calls, Path program calls (.done result) := by
  rcases Path.of_bind path with ⟨_, _, _, same⟩ | ⟨ended, _, _, _, implemented, last⟩
  · cases same
  · cases last
    exact implemented.of_implement

end StreamTransport

/-! ## Two reports of one connection -/

namespace Dialogue

variable {conversation : Conversation} {own peer : Dialogue} {ownSaid ownHeard peerSaid peerHeard :
  List (List UInt8)} {role peerRole final peerFinal : String} {trace peerTrace : List Frame}

/-- What was read are the envelopes that were written. -/
theorem heard_prefix (carried : own.Carried crates codec ownSaid ownHeard)
    (peerCarried : peer.Carried crates codec peerSaid peerHeard) (arrived : ownHeard <+: peerSaid)
    (passes : ∀ envelope ∈ peer.said, ∀ encoded, codec.encode crates envelope = .ok encoded →
      codec.decode crates encoded = .ok envelope) : own.heard <+: peer.said := by
  have decodes := carried.decodes
  have encodes := peerCarried.encodes
  clear carried peerCarried
  generalize own.heard = read at decodes
  generalize peer.said = written at encodes passes
  induction decodes generalizing peerSaid written with
  | nil => exact List.nil_prefix
  | @cons envelope payload read _ decoded _ ih =>
      cases encodes with
      | nil => simp at arrived
      | @cons sent other written _ encoded encodes =>
          rw [List.cons_prefix_cons] at arrived
          rcases arrived with ⟨same, arrived⟩
          subst same
          have passed := passes sent List.mem_cons_self _ encoded
          rw [decoded, Except.ok.injEq] at passed
          rw [passed, List.cons_prefix_cons]
          refine ⟨rfl, ih arrived written encodes ?_⟩
          intro envelope member
          exact passes envelope (List.mem_cons_of_mem _ member)

/-- The frames that are allowed in one state have one author. -/
theorem author_eq_of_next {id : String} {first second : Frame} {afterFirst afterSecond : String}
    (allowed : (conversation.protocol role).next id first = some afterFirst)
    (otherAllowed : (conversation.protocol role).next id second = some afterSecond) :
    first.author = second.author := by
  simp only [Conversation.protocol, Option.ite_none_right_eq_some, Conversation.next,
    Option.bind_eq_some_iff] at allowed otherAllowed
  rcases allowed with ⟨present, state, found, advanced⟩
  rcases otherAllowed with ⟨otherPresent, otherState, otherFound, otherAdvanced⟩
  rw [found, Option.some.injEq] at otherFound
  subst otherFound
  rcases Option.isSome_iff_exists.mp present with ⟨author, authored⟩
  rcases Option.isSome_iff_exists.mp otherPresent with ⟨otherAuthor, otherAuthored⟩
  rw [authored, otherAuthored, ← GlobalState.author_eq_of_advance advanced authored,
    GlobalState.author_eq_of_advance otherAdvanced otherAuthored]

/-- One trace goes on where the other one ends. -/
theorem Tells.comparable (tells : own.Tells crates codec conversation role trace final)
    (peerTells : peer.Tells crates codec conversation peerRole peerTrace peerFinal)
    (distinct : role ≠ peerRole) (heard : own.heard <+: peer.said)
    (peerHeard : peer.heard <+: own.said) : trace <+: peerTrace ∨ peerTrace <+: trace := by
  have frames := heard.map WireEnvelope.frame
  have peerFrames := peerHeard.map WireEnvelope.frame
  rw [tells.heard_eq, peerTells.said_eq] at frames
  rw [peerTells.heard_eq, tells.said_eq] at peerFrames
  have apart : some role ≠ some peerRole := by simpa using distinct
  exact @TurnTaking.comparable_of_heard _ _ _ _ (conversation.protocol role).next Frame.author _ _
    author_eq_of_next apart _ _ _ _ _ tells.ran peerTells.ran frames peerFrames

end Dialogue

/-- A successful report stands where the graph goes no further. -/
theorem ExecutionReport.Accounts.final {conversation : Conversation} {role : String}
    {report : ExecutionReport} (accounts : report.Accounts crates conversation role)
    (successful : report.successful = true) (frame : Frame) :
    report.completed = true ∧ conversation.next report.finalState frame = none := by
  rcases accounts.judged with ⟨state, found, completed, succeeded, _⟩
  rw [succeeded] at successful
  cases state with
  | «end» id =>
      refine ⟨completed, ?_⟩
      rw [Conversation.next, found, Option.bind_some]
      cases frame with
      | fault observer failure =>
          rw [GlobalState.advance_fault, GlobalState.failureTarget]
          simp
      | _ => rfl
  | _ => simp [GlobalState.report] at successful

namespace ExecutionReport

variable {conversation : Conversation} {role peerRole : String} {report other : ExecutionReport}

/-- Nothing follows the trace of a successful report. -/
theorem Accounts.trace_eq_of_both_prefixes (accounts : report.Accounts crates conversation role)
    (others : other.Accounts crates conversation peerRole) (successful : report.successful = true)
    (begun : report.semanticTrace <+: other.semanticTrace) :
    report.semanticTrace = other.semanticTrace := by
  rcases begun with ⟨more, whole⟩
  have ran := others.ran
  rw [← whole, Conversation.run, List.foldlM_append] at ran
  have own : List.foldlM conversation.next conversation.initial report.semanticTrace = _ :=
    accounts.ran
  rw [own] at ran
  cases more with
  | nil => rw [← whole, List.append_nil]
  | cons frame more =>
      have stops := (accounts.final successful frame).2
      simp [stops] at ran

end ExecutionReport

/-- The editorial parts of a conversation play no part in a run. -/
theorem ExecutionReport.Accounts.semantic {conversation : Conversation} {role : String}
    {report : ExecutionReport} (accounts : report.Accounts crates conversation role) :
    report.Accounts crates conversation.semantic role :=
  ⟨accounts.role_eq, accounts.conversationIdentity_eq, accounts.planIdentity_eq,
    accounts.traceIdentity_eq, accounts.tokens_eq, accounts.ran, accounts.judged⟩

theorem Dialogue.Tells.semantic {conversation : Conversation} {role final : String}
    {trace : List Frame} (tells : dialogue.Tells crates codec conversation role trace final) :
    dialogue.Tells crates codec conversation.semantic role trace final :=
  ⟨tells.ran, tells.said_eq, tells.heard_eq, tells.passes⟩

/-- Two successful roles that have heard only what the other has said have recorded the same. -/
theorem Dialogue.trace_eq {conversation : Conversation} {dialogue : Side → Dialogue}
    {final : Side → String} {report : Side → ExecutionReport}
    (accounts : ∀ side, (report side).Accounts crates conversation (generateRole side))
    (successful : ∀ side, (report side).successful = true)
    (tells : ∀ side, (dialogue side).Tells crates codec conversation (generateRole side)
      (report side).semanticTrace (final side))
    (hears : ∀ side, (dialogue side).heard <+: (dialogue side.other).said) :
    (report .left).semanticTrace = (report .right).semanticTrace := by
  have distinct : generateRole .left ≠ generateRole .right := by simp [generateRole]
  rcases (tells .left).comparable (tells .right) distinct (hears .left) (hears .right) with
    behind | ahead
  · exact (accounts .left).trace_eq_of_both_prefixes (accounts .right) (successful .left) behind
  · exact ((accounts .right).trace_eq_of_both_prefixes (accounts .left) (successful .right)
      ahead).symm

/-! ## The two commands -/

section Commands

open Generate (reported talks_generate tokenIds utters_prompt)
open Recording (Returns returns_conclude returns_report speaks_calls)

variable {conversation : Side → Conversation} {plan : Side → PreparedPlan}
  {encoding : Side → WireEncoding} {prompt : String} {tokenLimit fuel : ℕ}
  {cancelAfter : Option ℕ} {report : Side → ExecutionReport}
  {last : Program.Network Side (Pipes UInt8) (StreamOp UInt8) (StreamOp.Answer UInt8 StreamError)
    (Except Halt ExecutionReport)}

/-- What a role reports is what it has written and read, whoever the peer is. -/
theorem follows_generateRoles (reads : crates.ReadsBack) (side : Side)
    (compiled : PreparedPlan.compile crates (conversation side) = .ok (plan side)) :
    Follows Standing.Calls (fun standing result => ∀ report, result = Except.ok report →
      Returns crates (conversation side) (encoding side) (generateRole side) standing report)
      (.open ⟨[], []⟩)
      (generateRoles crates demo plan encoding prompt tokenLimit cancelAfter fuel side) := by
  rcases Conversation.preparedPlan_compile_eq_ok_iff.mp compiled with ⟨compilable, same⟩
  have unsent : ∀ {transport} {standing : Standing} {recorder : Recorder},
      Recorder.Broken standing recorder → Ensures Standing.Calls
        (fun standing report _ => Returns crates (conversation side) (encoding side)
          (generateRole side) standing report) standing recorder
        (Recording.report crates transport []) :=
    fun broken => returns_report (.inr broken) broken.unsuccessful
  cases side with
  | left =>
      simp only [generateRoles, Side.pair_left, same, runGenerateClientPlan]
      split_ifs
      · simp
      · apply Recording.follows_runRole compilable
        intro recorder unbroken
        exact (speaks_calls compilable reads).ensures_clientBody crates _ returns_conclude
          unsent prompt cancelAfter fuel unbroken
  | right =>
      simp only [generateRoles, Side.pair_right, same, runGenerateServerPlan]
      apply Recording.follows_runRole compilable
      intro recorder unbroken
      exact (speaks_calls compilable reads).ensures_serverBody crates _ returns_conclude
        unsent tokenLimit fuel unbroken

theorem accounts_generateRoles (side : Side)
    (compiled : PreparedPlan.compile crates (conversation side) = .ok (plan side))
    {calls : List (Program.Event TransportOp.Answer)} {report : ExecutionReport}
    (path : Path (generateRoles crates demo plan encoding prompt tokenLimit cancelAfter fuel side)
      calls (.done (.ok report))) :
    report.Accounts crates (conversation side) (generateRole side) := by
  cases side with
  | left =>
      have produced : report.ProducedByClient crates (conversation .left) :=
        ⟨_, _, _, _, _, calls, compiled, path⟩
      exact produced.accounts
  | right =>
      have produced : report.ProducedByServer crates (conversation .right) :=
        ⟨_, _, _, _, calls, compiled, path⟩
      exact produced.accounts

/-- The party that a side is in the handshake. -/
def handshakeParty (demo : StreamTransport) (encoding : Side → WireEncoding)
    (plan : Side → PreparedPlan) (side : Side) : SessionParty :=
  demo.party (encoding side) (plan side) (generateRole side) (generateRole side.other)

/-- Two sides that return reports have agreed on their session, and in it each has heard no more
than the other has told. -/
theorem exists_outcomes (reads : crates.ReadsBack) (never : crates.NeverEmpty)
    (compiled : ∀ side, PreparedPlan.compile crates (conversation side) = .ok (plan side))
    (steps : Relation.ReflTransGen (Step Answers)
      (commands crates demo plan encoding prompt tokenLimit cancelAfter fuel) last)
    (returned : ∀ side, last.program side = .done (.ok (report side))) :
    (∀ side, (report side).Accounts crates (conversation side) (generateRole side)) ∧
      (handshakeParty demo encoding plan .left).Agrees (handshakeParty demo encoding plan .right) ∧
      ∃ transcript : Side → Transcript UInt8,
        (∀ side, (transcript side).received <+: (transcript side.other).written) ∧
        ∀ side, demo.Outcome crates (conversation side) (encoding side) (generateRole side)
          (transcript side) (report side) := by
  rcases received_prefix rfl steps with ⟨events, paths, heard⟩
  have threads : ∀ side, ∃ before rest prepared encoded peerEncoded,
      events side = before ++ rest ∧
      (handshakeParty demo encoding plan side).Established crates before prepared encoded
        peerEncoded ∧
      Path (demo.carryOut crates (demo.inSession (.forPlan (encoding side) (plan side)))
        (generateRoles crates demo plan encoding prompt tokenLimit cancelAfter fuel side)) rest
        (.done (.ok (report side))) := by
    intro side
    have path := paths side
    rw [returned side] at path
    exact StreamTransport.path_thread path
  choose before rest prepared encoded peerEncoded whole established onward using threads
  have arrived : ∀ side, peerEncoded side = encoded side.other ∧
      received (rest side) <+: written (rest side.other) := by
    intro side
    have prefixed := heard side
    rw [whole side, whole side.other] at prefixed
    exact (established side).same_preface (established side.other) prefixed
  refine ⟨?_, ?_, fun side => ⟨written (rest side), received (rest side)⟩, fun side =>
    (arrived side).2, ?_⟩
  · intro side
    rcases StreamTransport.path_role (onward side) with ⟨calls, path⟩
    exact accounts_generateRoles side (compiled side) path
  · exact (established .left).agrees (established .right) reads.rereadsPrefaces
      (arrived .left).1 (arrived .right).1
  · intro side
    have path := onward side
    rw [(Conversation.preparedPlan_compile_eq_ok_iff.mp (compiled side)).2] at path
    exact StreamTransport.outcome_of_path never
      (follows_generateRoles reads side (compiled side)) path

/-- The encodings of documents are frames, and none of them is taken for the close marker. -/
theorem lt_size_of_closing {payloads : List (List UInt8)}
    (limited : ∀ payload ∈ payloads, payload.length ≤ maxEnvelopeBytes) (demo : StreamTransport) :
    ∀ payload ∈ payloads ++ demo.closing, payload.length < UInt32.size := by
  intro payload member
  rw [List.mem_append] at member
  rcases member with document | marker
  · exact lt_size_of_le_maxEnvelopeBytes (limited payload document)
  · cases demo with
    | tcp => cases marker
    | quic =>
        rw [StreamTransport.closing, List.mem_singleton] at marker
        rw [marker]
        decide

/-- What a successful role has heard, its successful peer has said. -/
theorem prefix_of_closing {heard said : List (List UInt8)}
    (heardLimited : ∀ payload ∈ heard, payload.length ≤ maxEnvelopeBytes)
    (saidLimited : ∀ payload ∈ said, payload.length ≤ maxEnvelopeBytes)
    (arrived : (heard ++ demo.closing).flatMap frame <+: (said ++ demo.closing).flatMap frame) :
    heard <+: said := by
  have whole := prefix_of_frames (lt_size_of_closing heardLimited demo)
    (lt_size_of_closing saidLimited demo) arrived
  have length := whole.length_le
  rw [List.length_append, List.length_append] at length
  exact List.prefix_of_prefix_length_le ((List.prefix_append _ _).trans whole)
    (List.prefix_append _ _) (by omega)

theorem commands_eq_networkThreads {plan : PreparedPlan} {encoding : WireEncoding} :
    commands crates demo (fun _ => plan) (fun _ => encoding) prompt tokenLimit cancelAfter fuel =
      networkThreads crates plan prompt tokenLimit cancelAfter demo encoding fuel := rfl

/-- The two commands on the example, over QUIC. -/
theorem exists_reports {crates : Crates} (reads : crates.ReadsBack) (concise : crates.Concise) :
    ∃ last trace,
      Relation.ReflTransGen (Step Answers)
        (commands crates .quic (fun _ => Conversation.generate.preparedPlan crates)
          (fun _ => .compact) "tell me" 3 (some 2) 5) last ∧
        ∀ side, last.program side =
          .done (.ok (reported crates side "quic+compact" (tokenIds 2) trace)) := by
  rcases @talks_generate crates reads concise "tell me" 3 5 (some 2) (by simp) (by omega) with
    ⟨trace, _, talks⟩
  have passes : (EnvelopeCodec.forPlan .compact (Conversation.generate.preparedPlan crates)).Passes
      crates (.send (Generate.promptEnvelope crates "tell me")) :=
    (utters_prompt "tell me").passes reads concise (Recording.plain_promptValue "tell me")
      (by decide)
  rcases passes with ⟨encoded, written, _⟩
  have talked := talks (StreamTransport.plan .quic .compact) .compact ⟨encoded, written⟩
  rw [commands_eq_networkThreads]
  rcases Program.Network.exists_stuck Reliable (networkThreads crates
    (Conversation.generate.preparedPlan crates) "tell me" 3 (some 2) .quic .compact 5) with
    ⟨last, steps, stuck⟩
  have ends := Generate.networkThreads_end reads concise (by simp) talked steps stuck
  refine ⟨last, trace, ?_, ends⟩
  refine steps.lift id ?_
  intro before after step
  cases step with
  | call calls answered => exact .call calls answered.1

/-- On QUIC, of two reports of one connection both are successful, or none is. -/
theorem quic_outcomes_agree (crates : Crates) (reads : crates.ReadsBack)
    (never : crates.NeverEmpty) (conversation : Side → Conversation) (plan : Side → PreparedPlan)
    (compiled : ∀ side, PreparedPlan.compile crates (conversation side) = .ok (plan side))
    (encoding : Side → WireEncoding) (prompt : String) (tokenLimit : ℕ) (cancelAfter : Option ℕ)
    (fuel : ℕ)
    (last : Program.Network Side (Pipes UInt8) (StreamOp UInt8)
      (StreamOp.Answer UInt8 StreamError) (Except Halt ExecutionReport))
    (steps : Relation.ReflTransGen (Step Answers)
      (commands crates .quic plan encoding prompt tokenLimit cancelAfter fuel) last)
    (report : Side → ExecutionReport)
    (returned : ∀ side, last.program side = .done (.ok (report side))) :
    (report .left).successful = (report .right).successful := by
  rcases exists_outcomes reads never compiled steps returned with
    ⟨_, _, transcript, arrived, outcomes⟩
  have follows : ∀ side, (report side).successful = true →
      (report side.other).successful = true := by
    intro side successful
    rcases (outcomes side).1 successful with ⟨_, said, heard, _, carried, whole, _⟩
    cases failed : (report side.other).successful with
    | true => rfl
    | false =>
        -- A peer that has failed never writes the close marker.
        rcases (outcomes side.other).2 failed with ⟨documents, limited, told⟩
        have marked := (arrived side).trans told
        rw [whole] at marked
        have within := prefix_of_frames (lt_size_of_closing carried.limited .quic)
          (fun payload member => lt_size_of_le_maxEnvelopeBytes (limited payload member).2) marked
        have marker : [] ∈ documents := by
          apply within.subset
          simp [StreamTransport.closing]
        exact absurd rfl (limited [] marker).1
  cases client : (report .left).successful with
  | true => exact (follows .left client).symm
  | false =>
      cases server : (report .right).successful with
      | false => rfl
      | true =>
          rw [← client]
          exact follows .right server

theorem quic_outcomes_agree_reference : ∃ last, ∃ report : Side → ExecutionReport,
    Relation.ReflTransGen (Step Answers)
      (commands .reference .quic (fun _ => Conversation.generate.preparedPlan .reference)
        (fun _ => .compact) "tell me" 3 (some 2) 5) last ∧
      (∀ side, last.program side = .done (.ok (report side))) ∧
      (report .left).successful = (report .right).successful := by
  rcases exists_reports Crates.reference_lossless.readsBack Crates.reference_concise with
    ⟨last, trace, steps, returned⟩
  exact ⟨last, _, steps, returned, quic_outcomes_agree .reference
    Crates.reference_lossless.readsBack Crates.reference_neverEmpty (fun _ => .generate) _
    (fun _ => Generate.compile _) _ _ _ _ _ last steps _ returned⟩

/-- Two successful reports of one connection are accepted as one session, wherever the connection
was cut: both roles have recorded the same trace. -/
theorem successful_reports_verify (crates : Crates) (reads : crates.ReadsBack)
    (injective : Function.Injective crates.toVec) (never : crates.NeverEmpty)
    (demo : StreamTransport) (conversation : Side → Conversation) (plan : Side → PreparedPlan)
    (compiled : ∀ side, PreparedPlan.compile crates (conversation side) = .ok (plan side))
    (conversations : crates.Distinguishes (conversation .left).semantic.toJson
      (conversation .right).semantic.toJson)
    (plans : crates.Distinguishes ((conversation .left).compiledPlan crates).semanticJson
      ((conversation .right).compiledPlan crates).semanticJson)
    (encoding : Side → WireEncoding) (prompt : String) (tokenLimit : ℕ) (cancelAfter : Option ℕ)
    (fuel : ℕ)
    (last : Program.Network Side (Pipes UInt8) (StreamOp UInt8)
      (StreamOp.Answer UInt8 StreamError) (Except Halt ExecutionReport))
    (steps : Relation.ReflTransGen (Step Answers)
      (commands crates demo plan encoding prompt tokenLimit cancelAfter fuel) last)
    (report : Side → ExecutionReport)
    (returned : ∀ side, last.program side = .done (.ok (report side)))
    (successful : ∀ side, (report side).successful = true) :
    (report .left).semanticTrace = (report .right).semanticTrace ∧
      ∃ session, verifySessionReports (report .left) (report .right) = .ok session := by
  rcases exists_outcomes reads never compiled steps returned with
    ⟨accounts, agrees, transcript, arrived, outcomes⟩
  have prepared := fun side =>
    (Conversation.preparedPlan_compile_eq_ok_iff.mp (compiled side)).2
  have planIdentity : (plan .left).planIdentity = (plan .right).planIdentity :=
    agrees.planIdentity_eq
  rw [prepared .left, prepared .right] at planIdentity
  have meaning := Conversation.semantic_eq_of_planIdentity injective conversations plans
    planIdentity
  have encodings : encoding .left = encoding .right := by
    have same := agrees.encoding_eq
    simpa only [handshakeParty, StreamTransport.party, StreamTransport.encoding_forPlan] using same
  choose dialogue said heard final carried whole tells using fun side =>
    (outcomes side).1 (successful side)
  -- Both sides have run the same plan, with the same codec.
  let shared := (conversation .left).semantic
  have same : ∀ side, (conversation side).semantic = shared := by
    intro side
    cases side with
    | left => rfl
    | right => exact meaning.symm
  let codec := EnvelopeCodec.forPlan (encoding .left) (shared.preparedPlan crates)
  have codecs : ∀ side, EnvelopeCodec.forPlan (encoding side)
      ((conversation side).preparedPlan crates) = codec := by
    intro side
    have plans : (conversation side).preparedPlan crates = shared.preparedPlan crates := by
      rw [← same side]
      rfl
    cases side with
    | left => rfl
    | right => rw [plans, ← encodings]
  simp only [codecs] at carried tells
  have telling := fun side => (tells side).semantic
  have accounting := fun side => (accounts side).semantic
  simp only [same] at telling accounting
  have hears : ∀ side, (dialogue side).heard <+: (dialogue side.other).said := by
    intro side
    have limited := documents_of_encoded never (carried side.other).encodes
    have bytes := arrived side
    rw [whole side, whole side.other] at bytes
    exact Dialogue.heard_prefix (carried side) (carried side.other)
      (prefix_of_closing (carried side).limited (fun payload member => (limited payload member).2)
        bytes) (telling side.other).passes
  have sameTrace := Dialogue.trace_eq accounting successful telling hears
  refine ⟨sameTrace, ?_⟩
  rcases (accounting .left).outcome_eq (accounting .right) rfl sameTrace with
    ⟨_, _, success, failure, tokens⟩
  have complete := fun side => ((accounts side).final (successful side) (.cancel "" "" "")).1
  apply ExecutionReport.exists_verifySessionReports_iff.mpr
  refine ⟨?_, ?_, ?_, complete .left, complete .right, success, failure, tokens⟩
  · rw [(accounting .left).conversationIdentity_eq, (accounting .right).conversationIdentity_eq]
  · rw [(accounting .left).planIdentity_eq, (accounting .right).planIdentity_eq]
  · rw [(accounts .left).traceIdentity_eq, (accounts .right).traceIdentity_eq, sameTrace]

theorem successful_reports_verify_reference : ∃ last, ∃ report : Side → ExecutionReport, ∃ session,
    Relation.ReflTransGen (Step Answers)
      (commands .reference .quic (fun _ => Conversation.generate.preparedPlan .reference)
        (fun _ => .compact) "tell me" 3 (some 2) 5) last ∧
      (∀ side, last.program side = .done (.ok (report side))) ∧
      (report .left).semanticTrace = (report .right).semanticTrace ∧
      verifySessionReports (report .left) (report .right) = .ok session := by
  rcases exists_reports Crates.reference_lossless.readsBack Crates.reference_concise with
    ⟨last, trace, steps, returned⟩
  have successful : ∀ side,
      (reported .reference side "quic+compact" (tokenIds 2) trace).successful = true :=
    fun _ => rfl
  rcases successful_reports_verify .reference Crates.reference_lossless.readsBack
    Crates.reference_lossless.toVec_injective Crates.reference_neverEmpty .quic (fun _ => .generate)
    _ (fun _ => Generate.compile _) (fun _ => rfl) (fun _ => rfl) _ _ _ _ _ last steps _ returned
    successful with ⟨sameTrace, session, verified⟩
  exact ⟨last, _, session, steps, returned, sameTrace, verified⟩

end Commands

end Colloq
