import Colloq.Conduct
import Colloq.JsonText
import Colloq.Refinement

/-!
# What the sequence number counts

A machine counts a frame when it emits or accepts it, and a failure when it is
observed at the current state. When a send fails after its envelope was emitted,
the fault that is recorded takes the place of the counted frame, unless the frame
led back to the state that it left: then both are counted and one is recorded.
-/

namespace Colloq

open Program (Discipline Event GhostPath Path)
open Program.Stateful (Ensures Follows)

/-- A send that fails although its frame stays counted: the emitted frame led back to its own
state, or no failure edge is there to take its place. -/
def miscounts (conversation : Conversation) (role : String) (event : Event TransportOp.Answer) :
    Bool :=
  match event with
  | ⟨.send envelope, answer⟩ =>
    match (answer : Except RuntimeError Unit) with
    | .ok () => false
    | .error error =>
      conversation.next envelope.state envelope.frame == some envelope.state ||
        (error.transportFailure.bind fun failure =>
          conversation.next envelope.state (.fault role failure)).isNone
  | _ => false

/-- The ghost state is the number of calls so far that miscounted. -/
def counting (conversation : Conversation) (role : String) :
    Discipline TransportOp TransportOp.Answer ℕ := fun count op after =>
  ∀ answer, after answer = count + (miscounts conversation role ⟨op, answer⟩).toNat

variable {conversation : Conversation} {role : String}

theorem count_of_ghostPath {first last : ℕ} {events : List (Event TransportOp.Answer)}
    (path : GhostPath (counting conversation role) first events last) :
    last = first + events.countP (miscounts conversation role) := by
  induction path with
  | refl => rfl
  | @call count last op after answer events allowed _ ih =>
      rw [ih, allowed answer, List.countP_cons]
      cases miscounts conversation role ⟨op, answer⟩ <;> simp
      omega

namespace Recorder

/-- The machine has counted the recorded frames, and `count` more. -/
structure Counted (conversation : Conversation) (role : String) (count : ℕ)
    (recorder : Recorder) : Prop where
  executes : recorder.machine.Executes conversation
  role_eq : recorder.machine.role = role
  sequence_eq : recorder.machine.sequence = UInt64.ofNat (recorder.trace.length + count)

/-- The machine has counted one frame more, that of an envelope it has just emitted. -/
structure Emitted (conversation : Conversation) (role : String) (count : ℕ)
    (envelope : WireEnvelope) (recorder : Recorder) : Prop where
  executes : recorder.machine.Executes conversation
  role_eq : recorder.machine.role = role
  sequence_eq : recorder.machine.sequence = UInt64.ofNat (recorder.trace.length + count) + 1
  allowed : conversation.next envelope.state envelope.frame = some recorder.machine.current

variable {count : ℕ} {recorder : Recorder}

theorem succ_ofNat (length count : ℕ) :
    UInt64.ofNat (length + count) + 1 = UInt64.ofNat (length + 1 + count) := by
  have same : length + 1 + count = length + count + 1 := by omega
  rw [same]
  exact (UInt64.ofNat_add _ _).symm

theorem Counted.emitted (counted : recorder.Counted conversation role count)
    {action : EndpointMachine.Action} {envelope : WireEnvelope} {machine : EndpointMachine}
    (performed : recorder.machine.perform action = some (.ok envelope, machine)) :
    Emitted conversation role count envelope { recorder with machine } := by
  rcases counted.executes.perform_eq_ok_iff.mp performed with
    ⟨frame, next, _, _, allowed, sealed, moved⟩
  subst envelope machine
  exact
    { executes := counted.executes.moved (counted.executes.wellFormed.hasState_next allowed)
      role_eq := counted.role_eq
      sequence_eq := congrArg (· + 1) counted.sequence_eq
      allowed }

theorem Counted.accepted (counted : recorder.Counted conversation role count)
    {envelope : WireEnvelope} {frame : Frame} {machine : EndpointMachine}
    (accepted : recorder.machine.accept envelope = some (.ok frame, machine)) :
    Counted conversation role count { machine, trace := recorder.trace ++ [frame] } := by
  rcases counted.executes.accept_eq_ok_iff.mp accepted with ⟨_, _, next, allowed, moved⟩
  subst machine
  refine ⟨counted.executes.moved (counted.executes.wellFormed.hasState_next allowed),
    counted.role_eq, ?_⟩
  rw [List.length_append, List.length_singleton, ← succ_ofNat]
  exact congrArg (· + 1) counted.sequence_eq

/-- A failure at the current state is counted like a frame. -/
theorem Counted.observed (counted : recorder.Counted conversation role count)
    {failure : String} {frame : Frame} {machine : EndpointMachine}
    (observed : recorder.machine.observeFailure failure = some (.ok frame, machine)) :
    Counted conversation role count { machine, trace := recorder.trace ++ [frame] } := by
  rcases counted.executes.observeFailureAt_eq_ok_iff.mp observed with
    ⟨_, next, allowed, moved⟩
  rw [if_pos rfl] at moved
  subst machine
  refine ⟨counted.executes.moved (counted.executes.wellFormed.hasState_next allowed),
    counted.role_eq, ?_⟩
  rw [List.length_append, List.length_singleton, ← succ_ofNat]
  exact congrArg (· + 1) counted.sequence_eq

/-- The fault of a send that failed takes the place of the counted frame, unless the machine
still is at the state where it counted it. -/
theorem Emitted.observed {envelope : WireEnvelope}
    (emitted : recorder.Emitted conversation role count envelope)
    {failure : String} {frame : Frame} {machine : EndpointMachine}
    (observed : recorder.machine.observeFailureAt envelope.state failure =
      some (.ok frame, machine)) :
    (conversation.next envelope.state (.fault role failure)).isSome = true ∧
      Counted conversation role
        (count + (conversation.next envelope.state envelope.frame == some envelope.state).toNat)
        { machine, trace := recorder.trace ++ [frame] } := by
  rcases emitted.executes.observeFailureAt_eq_ok_iff.mp observed with
    ⟨_, next, allowed, moved⟩
  rw [emitted.role_eq] at allowed
  have hasState := emitted.executes.wellFormed.hasState_next allowed
  have here : recorder.machine.sequence = UInt64.ofNat (recorder.trace.length + 1 + count) :=
    emitted.sequence_eq.trans (succ_ofNat _ _)
  refine ⟨by simp [allowed], ?_, ?_, ?_⟩
  · rw [moved]
    exact ⟨emitted.executes.wellFormed, emitted.executes.endpoint_eq,
      emitted.executes.role_mem, hasState⟩
  · rw [moved]
    exact emitted.role_eq
  · rw [emitted.allowed, List.length_append, List.length_singleton, moved]
    by_cases back : recorder.machine.current = envelope.state
    · have same : recorder.trace.length + 1 + (count + 1) =
        recorder.trace.length + 1 + 1 + count := by omega
      simp only [back, if_true, beq_self_eq_true, Bool.toNat_true, here, same]
      exact succ_ofNat _ _
    · have away : (recorder.machine.current == envelope.state) = false := by simp [back]
      simp [back, away, here]

/-- A failed observation leaves an emitted frame counted and unrecorded. -/
theorem Emitted.stranded {envelope : WireEnvelope}
    (emitted : recorder.Emitted conversation role count envelope) :
    recorder.Counted conversation role (count + 1) := by
  refine ⟨emitted.executes, emitted.role_eq, ?_⟩
  rw [emitted.sequence_eq, succ_ofNat]
  congr 1
  omega

end Recorder

namespace Recording

open Recorder (Counted Emitted)

variable {count : ℕ} {recorder : Recorder}

/-- A send counts one too many exactly if its answer makes it a miscount. -/
theorem counted_sendAndRecord {envelope : WireEnvelope}
    (emitted : recorder.Emitted conversation role count envelope) :
    Follows (counting conversation role)
      (fun count _ recorder => Counted conversation role count recorder) count recorder
      (sendAndRecord envelope) := by
  apply follows_sendAndRecord fun _ => rfl
  · refine ⟨emitted.executes, emitted.role_eq, ?_⟩
    rw [emitted.sequence_eq, Recorder.succ_ofNat]
    simp [miscounts]
  · intro error named
    simpa [miscounts, named] using emitted.stranded
  · intro error failure named
    refine ⟨_, fun _ => rfl, ?_, ?_, ?_⟩
    · intro frame machine observed
      rcases emitted.observed observed with ⟨declared, counted⟩
      rcases Option.isSome_iff_exists.mp declared with ⟨next, allowed⟩
      simpa [miscounts, named, allowed] using counted
    · intro error machine failed
      have same := EndpointMachine.eq_of_observeFailureAt_error failed
      have undeclared := emitted.executes.next_fault_eq_none envelope.state failure
        (by simp [failed])
      rw [emitted.role_eq] at undeclared
      subst same
      simpa [miscounts, named, undeclared] using emitted.stranded
    · intro panicked
      have undeclared := emitted.executes.next_fault_eq_none envelope.state failure
        (by simp [panicked])
      rw [emitted.role_eq] at undeclared
      simpa [miscounts, named, undeclared] using emitted.stranded

/-- A receive counts what it records. -/
theorem counted_receiveAndRecord (counted : recorder.Counted conversation role count) :
    Follows (counting conversation role)
      (fun count _ recorder => Counted conversation role count recorder) count recorder
      receiveAndRecord := by
  apply follows_receiveAndRecord fun _ => rfl
  · intro envelope
    refine ⟨?_, ?_, ?_⟩
    · intro frame machine accepted
      exact counted.accepted accepted
    · intro error machine rejected
      rw [EndpointMachine.eq_of_accept_error rejected]
      exact counted
    · intro _
      exact counted
  · intro error _
    exact counted
  · intro error failure _
    refine ⟨_, fun _ => rfl, ?_, ?_, ?_⟩
    · intro frame machine observed
      exact counted.observed observed
    · intro error machine failed
      rw [EndpointMachine.eq_of_observeFailureAt_error failed]
      exact counted
    · intro _
      exact counted

theorem counted_perform (counted : recorder.Counted conversation role count)
    (action : EndpointMachine.Action) :
    Follows (counting conversation role) (fun count result recorder =>
        (∀ envelope, result = .ok envelope → recorder.Emitted conversation role count envelope) ∧
          ∀ error, result = .error error → recorder.Counted conversation role count)
      count recorder (operate fun machine => machine.perform action) := by
  apply follows_operate
  · intro envelope machine performed
    refine ⟨?_, by simp⟩
    intro _ same
    rw [← Except.ok.inj same]
    exact counted.emitted performed
  · intro error machine failed
    rw [EndpointMachine.eq_of_perform_error failed]
    exact ⟨by simp, fun _ _ => counted⟩
  · intro _
    exact ⟨by simp, fun _ _ => counted⟩

theorem conducts_counting : Conducts (counting conversation role)
    (fun count recorder => Counted conversation role count recorder)
    (fun count recorder => Counted conversation role count recorder) where
  send counted _ performed := by
    apply (counted_sendAndRecord (counted.emitted performed)).mono
    intro count result recorder counted sent _
    simpa using counted
  receive counted := by
    apply (counted_receiveAndRecord counted).mono
    intro count result recorder counted received _
    simpa using counted
  finish counted _ := by
    refine ⟨_, fun _ => rfl, ?_⟩
    intro answer
    simpa [miscounts] using counted

/-- What a role does between two frames of its trace. -/
inductive Turn where
  | act (action : EndpointMachine.Action)
  | receive

/-- `emit_*` and then `send_and_record` of that envelope, or `receive_and_record`. -/
def Turn.program : Turn → Recording Unit
  | .act action => do
    let envelope ← operate fun machine => machine.perform action
    let _ ← sendAndRecord envelope
  | .receive => do
    let _ ← receiveAndRecord

/-- So every call leaves the sequence ahead of the trace by the miscounts. -/
theorem counted_turn (counted : recorder.Counted conversation role count) (turn : Turn) :
    Follows (counting conversation role)
      (fun count _ recorder => Counted conversation role count recorder) count recorder
      turn.program := by
  cases turn with
  | act action =>
      apply (counted_perform counted action).bind
      · intro count envelope recorder holds
        apply (counted_sendAndRecord (holds.1 envelope rfl)).bind
        · intro count sent recorder counted
          exact counted
        · intro count error recorder counted
          exact counted
      · intro count error recorder holds
        exact holds.2 error rfl
  | receive =>
      apply (counted_receiveAndRecord counted).bind
      · intro count received recorder counted
        exact counted
      · intro count error recorder counted
        exact counted

/-- A run of turns, each of which may succeed or fail, over a transport that may answer
anything. -/
inductive Run : Recorder → List (Event TransportOp.Answer) → Recorder → Prop where
  | start (recorder : Recorder) : Run recorder [] recorder
  | turn {first between last : Recorder} {events more : List (Event TransportOp.Answer)}
      {turn : Turn} {result : Except Halt Unit} (run : Run first events between)
      (path : Path (turn.program.start between) more (.done (result, last))) :
      Run first (events ++ more) last

theorem Run.counted {first last : Recorder} {events : List (Event TransportOp.Answer)}
    (run : Run first events last) (counted : first.Counted conversation role count) :
    last.Counted conversation role (count + events.countP (miscounts conversation role)) := by
  induction run with
  | start => exact counted
  | turn _ path ih =>
      rcases (counted_turn ih _).path path with ⟨after, ghosts, ended⟩
      have counts := count_of_ghostPath ghosts
      rw [List.countP_append, ← Nat.add_assoc, ← counts]
      exact ended

/-- The sequence number is the length of the trace as long as no call miscounts, and in fewer
than 2^64 calls only then. -/
def CountsUnlessMiscounted (conversation : Conversation) (role : String)
    (events : List (Event TransportOp.Answer)) (sequence : UInt64) (trace : List Frame) : Prop :=
  ((∀ event ∈ events, miscounts conversation role event = false) →
    sequence = UInt64.ofNat trace.length) ∧
  (events.length < UInt64.size → sequence = UInt64.ofNat trace.length →
    ∀ event ∈ events, miscounts conversation role event = false)

/-- As the count has 64 bits, it is right with no miscount, and only then while there are less than
`2 ^ 64` events. -/
theorem countsUnlessMiscounted_of {events : List (Event TransportOp.Answer)}
    {sequence : UInt64} {trace : List Frame}
    (counted : sequence =
      UInt64.ofNat (trace.length + events.countP (miscounts conversation role))) :
    CountsUnlessMiscounted conversation role events sequence trace := by
  have none_iff : events.countP (miscounts conversation role) = 0 ↔
      ∀ event ∈ events, miscounts conversation role event = false := by
    simp [List.countP_eq_zero]
  constructor
  · intro none
    rw [counted, none_iff.mpr none, Nat.add_zero]
  · intro fits same
    apply none_iff.mp
    have atMost : events.countP (miscounts conversation role) ≤ events.length :=
      List.countP_le_length
    have zero : UInt64.ofNat (events.countP (miscounts conversation role)) = 0 := by
      rw [counted, UInt64.ofNat_add] at same
      simpa using same
    have := congrArg UInt64.toNat zero
    rw [UInt64.toNat_ofNat_of_lt' (lt_of_le_of_lt atMost fits)] at this
    exact this

theorem counted_initial (crates : Crates) (compilable : conversation.Compilable)
    (hasRole : conversation.HasRole role) :
    Counted conversation role 0
      { machine := conversation.initialMachine crates role, trace := [] } :=
  ⟨compilable.executes_initialMachine hasRole, rfl, rfl⟩

/-- Both roles report the counter of a machine that counted what they recorded. -/
theorem counts_of_runRole {crates : Crates} (compilable : conversation.Compilable)
    {body : Recording ExecutionReport}
    (conducted : ∀ {recorder : Recorder}, recorder.Counted conversation role 0 →
      Ensures (counting conversation role)
        (Reported (fun count recorder => Counted conversation role count recorder)
          fun count recorder => Counted conversation role count recorder) 0 recorder body)
    {events : List (Event TransportOp.Answer)} {report : ExecutionReport}
    (path : Path (runRole (conversation.preparedPlan crates) role body) events
      (.done (.ok report))) :
    CountsUnlessMiscounted conversation role events report.frames report.semanticTrace := by
  rcases created : EndpointMachine.fromPlan (conversation.preparedPlan crates) role with
    error | machine
  · simp only [runRole, created] at path
    cases path
  · rcases Conversation.fromPlan_preparedPlan_eq_ok_iff.mp created with ⟨hasRole, initial⟩
    subst initial
    simp only [runRole, created] at path
    have follows := (conducted (counted_initial crates compilable hasRole)).result
    rcases follows.path path with ⟨count, ghosts, ended⟩
    rcases ended report rfl with ⟨recorder, left, describes⟩
    have counted : recorder.Counted conversation role count := left.elim id id
    apply countsUnlessMiscounted_of
    rw [describes.frames_eq, describes.trace_eq, counted.sequence_eq, count_of_ghostPath ghosts,
      Nat.zero_add]

/-- The sequence number of a machine is the length of its trace, in every run of a role and in
the reports of the generate client and server, unless a send failed although its frame stays
counted. -/
theorem sequence_counts_recorded_frames (crates : Crates) (conversation : Conversation)
    (plan : ColloqPlan) (compiled : ColloqPlan.compile crates conversation = .ok plan) :
    ∃ prepared, PreparedPlan.compile crates conversation = .ok prepared ∧
      (∀ role, conversation.HasRole role → ∃ machine,
        EndpointMachine.fromPlan prepared role = .ok machine ∧
        ∀ events recorder, Run { machine, trace := [] } events recorder →
          CountsUnlessMiscounted conversation role events recorder.machine.sequence
            recorder.trace) ∧
      (∀ transport prompt cancelAfter fuel events report,
        Path (runGenerateClientPlan crates prepared transport prompt cancelAfter fuel) events
          (.done (.ok report)) →
        CountsUnlessMiscounted conversation "client" events report.frames
          report.semanticTrace) ∧
      (∀ transport tokenLimit fuel events report,
        Path (runGenerateServerPlan crates prepared transport tokenLimit fuel) events
          (.done (.ok report)) →
        CountsUnlessMiscounted conversation "server" events report.frames
          report.semanticTrace) := by
  rcases ColloqPlan.compile_eq_ok_iff.mp compiled with ⟨compilable, _⟩
  refine ⟨conversation.preparedPlan crates,
    Conversation.preparedPlan_compile_eq_ok_iff.mpr ⟨compilable, rfl⟩, ?_, ?_, ?_⟩
  · intro role hasRole
    refine ⟨_, Conversation.fromPlan_preparedPlan_eq_ok_iff.mpr ⟨hasRole, rfl⟩, ?_⟩
    intro events recorder run
    have counted := run.counted (counted_initial crates compilable hasRole)
    apply countsUnlessMiscounted_of
    rw [counted.sequence_eq, Nat.zero_add]
  · intro transport prompt cancelAfter fuel events report path
    rw [runGenerateClientPlan] at path
    split at path
    · cases path
    · apply counts_of_runRole compilable _ path
      intro recorder counted
      exact conducts_counting.ensures_clientBody crates transport prompt cancelAfter fuel counted
  · intro transport tokenLimit fuel events report path
    apply counts_of_runRole compilable _ path
    intro recorder counted
    exact conducts_counting.ensures_serverBody crates transport tokenLimit fuel counted

theorem path_operate_bind {α β : Type} {operation : EndpointMachine → Outcome α} {value : α}
    {machine : EndpointMachine} {rest : α → Recording β}
    {last : Program TransportOp TransportOp.Answer (Except Halt β × Recorder)}
    {events : List (Event TransportOp.Answer)}
    (returned : operation recorder.machine = some (.ok value, machine))
    (continued : Path ((rest value).start { recorder with machine }) events last) :
    Path ((operate operation >>= rest).start recorder) events last := by
  have operates : (operate operation).start recorder =
      .done (.ok value, { recorder with machine }) := by
    simp [operate, Program.Stateful.start_bind, returned, ofExcept]
  rw [Program.Stateful.start_bind, operates]
  exact continued

/-- A turn whose send is lost and recorded as a fault. -/
theorem path_lost_act {action : EndpointMachine.Action} {envelope : WireEnvelope}
    {machine after : EndpointMachine} {error : RuntimeError} {failure : String} {fault : Frame}
    (performed : recorder.machine.perform action = some (.ok envelope, machine))
    (named : error.transportFailure = some failure)
    (observed : machine.observeFailureAt envelope.state failure = some (.ok fault, after)) :
    Path ((Turn.act action).program.start recorder)
      [⟨.send envelope, Except.error error⟩, ⟨.abort, ()⟩]
      (.done (.ok (), { machine := after, trace := recorder.trace ++ [fault] })) := by
  have sends : Path ((sendAndRecord envelope).start { recorder with machine })
      [⟨.send envelope, Except.error error⟩, ⟨.abort, ()⟩]
      (.done (.ok false, { machine := after, trace := recorder.trace ++ [fault] })) := by
    rw [sendAndRecord, send]
    apply Program.Stateful.path_ask_bind
    simp only [named, abort]
    apply Program.Stateful.path_ask_bind
    apply path_operate_bind observed
    exact .refl _
  apply path_operate_bind performed
  exact Program.Stateful.path_bind sends (.refl _)

end Recording

/-! ## A conversation that counts one frame too many -/

namespace Conversation

/-- A client may repeat its offer as long as the link to the server is there. -/
def offer : Conversation where
  colloqConversation := "0.1.0"
  module := { id := "offer" }
  roles := [{ id := "client" }, { id := "server" }]
  types := []
  failures := [{ id := "transport.closed" }]
  initial := "offer"
  states :=
    [.choice "offer" "client" {("again", "offer"), ("stop", "done")}
        {("transport.closed", "closed")},
      .end "done", .fail "closed" "transport.closed"]

theorem compilable_offer : offer.Compilable where
  toWellFormed := (validate_eq_ok_iff offer).mp rfl
  module_valid := by decide
  role_valid := by decide
  state_valid := by decide
  transitionCount_le := by decide

theorem hasRole_offer : offer.HasRole "client" := by
  simp [HasRole, offer]

end Conversation

theorem ColloqPlan.compile_offer (crates : Crates) :
    compile crates .offer = .ok (Conversation.offer.compiledPlan crates) :=
  compile_eq_ok_iff.mpr ⟨Conversation.compilable_offer, rfl⟩

namespace Recording

theorem sequence_counts_recorded_frames_offer :
    ∃ prepared, PreparedPlan.compile .reference .offer = .ok prepared ∧
      (∀ role, Conversation.offer.HasRole role → ∃ machine,
        EndpointMachine.fromPlan prepared role = .ok machine ∧
        ∀ events recorder, Run { machine, trace := [] } events recorder →
          CountsUnlessMiscounted .offer role events recorder.machine.sequence recorder.trace) ∧
      (∀ transport prompt cancelAfter fuel events report,
        Path (runGenerateClientPlan .reference prepared transport prompt cancelAfter fuel) events
          (.done (.ok report)) →
        CountsUnlessMiscounted .offer "client" events report.frames report.semanticTrace) ∧
      (∀ transport tokenLimit fuel events report,
        Path (runGenerateServerPlan .reference prepared transport tokenLimit fuel) events
          (.done (.ok report)) →
        CountsUnlessMiscounted .offer "server" events report.frames report.semanticTrace) :=
  sequence_counts_recorded_frames .reference .offer _ (ColloqPlan.compile_offer _)

/-- The client selects `again` on a link that is already closed. The call returns `Ok`, but the
machine counts the frame and the fault, and the trace holds the fault alone. -/
theorem sequence_miscounts_offer :
    ¬ ∀ (crates : Crates) (conversation : Conversation) (plan : ColloqPlan),
      ColloqPlan.compile crates conversation = .ok plan → ∀ role machine,
        EndpointMachine.forRole crates conversation role = .ok machine →
          ∀ events before, Run { machine, trace := [] } events before →
            ∀ (turn : Turn) (more : List (Event TransportOp.Answer)) (recorder : Recorder),
              Path (turn.program.start before) more (.done (.ok (), recorder)) →
                recorder.machine.sequence = UInt64.ofNat recorder.trace.length := by
  intro counts
  have executes : (Conversation.offer.initialMachine .reference "client").Executes .offer :=
    Conversation.compilable_offer.executes_initialMachine Conversation.hasRole_offer
  have performed := executes.perform_eq_ok_iff.mpr
    ⟨.select "client" "again", "offer", rfl, rfl, rfl, rfl, rfl⟩
  have again : Conversation.offer.HasState "offer" := executes.wellFormed.initial_mem
  have declared : Conversation.offer.next "offer" (.fault "client" "transport.closed") =
      some "closed" := rfl
  have observed := (executes.moved again).observeFailureAt_eq_ok_iff.mpr
    ⟨rfl, "closed", declared, rfl⟩
  have named : (RuntimeError.transportClosed "memory").transportFailure =
      some "transport.closed" := rfl
  have lost := @path_lost_act ⟨_, []⟩ _ _ _ _ _ _ _ performed named observed
  have same := counts .reference .offer _ (ColloqPlan.compile_offer _) "client" _
    (Conversation.forRole_eq_ok_iff.mpr ⟨Conversation.compilable_offer,
      Conversation.hasRole_offer, rfl⟩) _ _ (.start _) _ _ _ lost
  have moved : ((Conversation.offer.initialMachine .reference "client").moved "offer").current =
      "offer" := rfl
  dsimp only at same
  rw [if_pos moved] at same
  exact absurd same (by decide)

end Recording

end Colloq
