import Colloq.Generate
import Colloq.Library.Baton
import Colloq.LocalRun
import Colloq.RoundTrip

/-!
# How the two roles use their transport

The rules of a recording program, and what a discipline has to allow for the
generate client and server to follow it: a role sends what its machine has just
emitted and receives until a failure ends it, and then it calls no more.
-/

namespace Colloq

/-! ## Whose turn it is

The client utters the prompt, the server its tokens, and either waits after it has. Of the
selections only the client's `continue` leaves the turn to the other role. -/

/-- The peer utters the next frame. -/
def Frame.handsOver : Frame → Bool
  | .data .. | .cancel .. => true
  | .select _ label => label = "continue"
  | .fault .. => false

/-- The peer utters the frame after this action. -/
def EndpointMachine.Action.handsOver : EndpointMachine.Action → Bool
  | .data _ | .cancel => true
  | .select label => label = "continue"

/-- The action of an envelope decides whether it hands over. -/
theorem EndpointMachine.handsOver_of_perform {machine after : EndpointMachine}
    {action : Action} {envelope : WireEnvelope}
    (performed : machine.perform action = some (.ok envelope, after)) :
    envelope.frame.handsOver = action.handsOver := by
  cases action with
  | data payload =>
      simp only [perform, emitData] at performed
      split at performed <;> cases performed
      rfl
  | select label =>
      simp only [perform, emitSelect] at performed
      split at performed
      · cases performed
      · split at performed <;> cases performed
        rfl
      · cases performed
  | cancel =>
      simp only [perform, emitCancel] at performed
      split at performed <;> cases performed
      rfl

theorem handsOver_of_promptPayload {frame : Frame} {text : String}
    (read : promptPayload frame = .ok text) : frame.handsOver = true := by
  cases frame with
  | data => rfl
  | _ => simp [promptPayload] at read

theorem handsOver_of_tokenPayload {frame : Frame} {tokenId : UInt64}
    (read : tokenPayload frame = .ok tokenId) : frame.handsOver = true := by
  cases frame with
  | data => rfl
  | _ => simp [tokenPayload] at read

namespace Recording

open Program (Discipline)
open Program.Stateful (Ensures Follows)

section Rules

variable {γ α : Type} {discipline : Discipline TransportOp TransportOp.Answer γ} {ghost : γ}
  {recorder : Recorder}

theorem follows_ofExcept {result : Except RuntimeError α}
    {post : γ → Except Halt α → Recorder → Prop}
    (returned : ∀ value, result = .ok value → post ghost (.ok value) recorder)
    (failed : ∀ error, result = .error error → post ghost (.error (.error error)) recorder) :
    Follows discipline post ghost recorder (ofExcept result) := by
  cases result with
  | ok value => exact returned value rfl
  | error error => exact failed error rfl

theorem follows_inspect {query : EndpointMachine → Option α}
    {post : γ → Except Halt α → Recorder → Prop}
    (returned : ∀ value, query recorder.machine = some value → post ghost (.ok value) recorder)
    (panicked : query recorder.machine = none → post ghost (.error .panic) recorder) :
    Follows discipline post ghost recorder (inspect query) := by
  rw [Follows, inspect, Program.Stateful.start_bind]
  rcases answered : query recorder.machine with _ | value
  · simpa [answered] using panicked answered
  · simpa [answered] using returned value answered

theorem follows_operate {operation : EndpointMachine → Outcome α}
    {post : γ → Except Halt α → Recorder → Prop}
    (returned : ∀ value machine, operation recorder.machine = some (.ok value, machine) →
      post ghost (.ok value) { recorder with machine })
    (failed : ∀ error machine, operation recorder.machine = some (.error error, machine) →
      post ghost (.error (.error error)) { recorder with machine })
    (panicked : operation recorder.machine = none → post ghost (.error .panic) recorder) :
    Follows discipline post ghost recorder (operate operation) := by
  rw [Follows, operate, Program.Stateful.start_bind]
  rcases outcome : operation recorder.machine with _ | ⟨error | value, machine⟩
  · simpa [outcome] using panicked outcome
  · simpa [outcome, Program.Stateful.start_bind, ofExcept] using failed error machine outcome
  · simpa [outcome, Program.Stateful.start_bind, ofExcept] using returned value machine outcome

/-- What has to hold after an operation whose frame is then recorded. -/
structure Records (post : γ → Except Halt α → Recorder → Prop) (ghost : γ)
    (recorder : Recorder) (value : Frame → α) (outcome : Outcome Frame) : Prop where
  returned : ∀ frame machine, outcome = some (.ok frame, machine) →
    post ghost (.ok (value frame)) { machine, trace := recorder.trace ++ [frame] }
  failed : ∀ error machine, outcome = some (.error error, machine) →
    post ghost (.error (.error error)) { recorder with machine }
  panicked : outcome = none → post ghost (.error .panic) recorder

theorem Records.follows {post : γ → Except Halt α → Recorder → Prop} {value : Frame → α}
    {operation : EndpointMachine → Outcome Frame}
    (records : Records post ghost recorder value (operation recorder.machine)) :
    Follows discipline post ghost recorder (do
      let frame ← operate operation
      record frame
      return value frame) := by
  rcases outcome : operation recorder.machine with _ | ⟨error | frame, machine⟩
  · simpa [Follows, operate, outcome, Program.Stateful.start_bind]
      using records.panicked outcome
  · simpa [Follows, operate, outcome, Program.Stateful.start_bind, ofExcept]
      using records.failed error machine outcome
  · simpa [Follows, operate, outcome, Program.Stateful.start_bind, ofExcept, record]
      using records.returned frame machine outcome

/-- A discipline that lets the role send, and abort after a failure, is followed. -/
theorem follows_sendAndRecord {envelope : WireEnvelope}
    {post : γ → Except Halt Bool → Recorder → Prop} {answered : Except RuntimeError Unit → γ}
    (allowed : discipline ghost (.send envelope) answered)
    (sent : post (answered (.ok ())) (.ok true)
      { recorder with trace := recorder.trace ++ [envelope.frame] })
    (refused : ∀ error, error.transportFailure = none →
      post (answered (.error error)) (.error (.error error)) recorder)
    (fell : ∀ error failure, error.transportFailure = some failure →
      ∃ aborted, discipline (answered (.error error)) .abort aborted ∧
        Records post (aborted ()) recorder (fun _ => false)
          (recorder.machine.observeFailureAt envelope.state failure)) :
    Follows discipline post ghost recorder (sendAndRecord envelope) := by
  apply Follows.ask_bind allowed
  intro answer
  rcases answer with error | ⟨⟨⟩⟩
  · rcases named : error.transportFailure with _ | failure
    · simp only [named]
      exact refused error named
    · rcases fell error failure named with ⟨aborted, abortAllowed, records⟩
      simp only [named]
      exact Follows.ask_bind abortAllowed fun _ => Records.follows records
  · exact sent

/-- One that lets it receive, and abort after a failure, is followed, too. -/
theorem follows_receiveAndRecord {post : γ → Except Halt (Option Frame) → Recorder → Prop}
    {answered : Except RuntimeError WireEnvelope → γ}
    (allowed : discipline ghost .receive answered)
    (received : ∀ envelope, Records post (answered (.ok envelope)) recorder some
      (recorder.machine.accept envelope))
    (refused : ∀ error, error.transportFailure = none →
      post (answered (.error error)) (.error (.error error)) recorder)
    (fell : ∀ error failure, error.transportFailure = some failure →
      ∃ aborted, discipline (answered (.error error)) .abort aborted ∧
        Records post (aborted ()) recorder (fun _ => none)
          (recorder.machine.observeFailure failure)) :
    Follows discipline post ghost recorder receiveAndRecord := by
  apply Follows.ask_bind allowed
  intro answer
  rcases answer with error | envelope
  · rcases named : error.transportFailure with _ | failure
    · simp only [named]
      exact refused error named
    · rcases fell error failure named with ⟨aborted, abortAllowed, records⟩
      simp only [named]
      exact Follows.ask_bind abortAllowed fun _ => Records.follows records
  · exact Records.follows (received envelope)

end Rules

/-! ## Local runs

A local run over a transport is the same program, interpreted by that transport. -/

section LocalRuns

variable {τ : Type} [Transport τ]

/-- The answers of a transport, which has nothing to do when it is finished. -/
def handle (transport : τ) : (op : TransportOp) → op.Answer × τ
  | .send envelope => Transport.send transport envelope
  | .receive => Transport.receive transport
  | .finish _ => (Except.ok (), transport)
  | .abort => ((), Transport.abort transport)

/-- The local run that a recording program leaves, or a panic. -/
def localRun {α : Type} (ended : (Except Halt α × Recorder) × τ) :
    Option (Except RuntimeError α × LocalRun τ) :=
  let run : LocalRun τ :=
    { machine := ended.1.2.machine, transport := ended.2, trace := ended.1.2.trace }
  match ended.1.1 with
  | .ok value => some (.ok value, run)
  | .error (.error error) => some (.error error, run)
  | .error .panic | .error .outOfFuel => none

theorem start_operate {α : Type} (operation : EndpointMachine → Outcome α) (recorder : Recorder) :
    (operate operation).start recorder = .done (match operation recorder.machine with
      | none => (.error .panic, recorder)
      | some (.ok value, machine) => (.ok value, { recorder with machine })
      | some (.error error, machine) => (.error (.error error), { recorder with machine })) := by
  rcases outcome : operation recorder.machine with _ | ⟨error | value, machine⟩ <;>
    simp [operate, outcome, Program.Stateful.start_bind, ofExcept]

theorem start_record (frame : Frame) (recorder : Recorder) :
    (record frame).start recorder =
      .done (.ok (), { recorder with trace := recorder.trace ++ [frame] }) := rfl

theorem start_send (envelope : WireEnvelope) (recorder : Recorder) :
    (send envelope).start recorder =
      .call (.send envelope) fun answer => .done (.ok answer, recorder) := rfl

theorem start_receive (recorder : Recorder) :
    receive.start recorder = .call .receive fun answer => .done (.ok answer, recorder) := rfl

theorem start_abort (recorder : Recorder) :
    abort.start recorder = .call .abort fun answer => .done (.ok answer, recorder) := rfl

/-- The recording program over a transport is the local run that sends on it. -/
theorem localRun_sendAndRecord (run : LocalRun τ) (envelope : WireEnvelope) :
    run.sendAndRecord envelope = localRun (Program.interpret handle
      ((sendAndRecord envelope).start { machine := run.machine, trace := run.trace })
      run.transport) := by
  rcases sent : Transport.send run.transport envelope with ⟨error | ⟨⟨⟩⟩, transport⟩
  · rcases named : error.transportFailure with _ | failure
    · simp [LocalRun.sendAndRecord, sent, sendAndRecord, start_send, Program.Stateful.start_bind,
        handle,
        named, localRun]
    · rcases observed : run.machine.observeFailureAt envelope.state failure with
        _ | ⟨error | fault, machine⟩ <;>
      simp [LocalRun.sendAndRecord, sent, sendAndRecord, start_send, start_abort,
        Program.Stateful.start_bind,
        handle, named, observed, localRun, start_operate, start_record]
  · simp [LocalRun.sendAndRecord, sent, sendAndRecord, start_send, Program.Stateful.start_bind,
        handle,
      localRun, start_record]

/-- And the local run that receives on it. -/
theorem localRun_receiveAndRecord (run : LocalRun τ) :
    run.receiveAndRecord = localRun (Program.interpret handle
      (receiveAndRecord.start { machine := run.machine, trace := run.trace })
      run.transport) := by
  rcases received : Transport.receive run.transport with ⟨error | envelope, transport⟩
  · rcases named : error.transportFailure with _ | failure
    · simp [LocalRun.receiveAndRecord, received, receiveAndRecord, start_receive,
        Program.Stateful.start_bind, handle, named, localRun]
    · rcases observed : run.machine.observeFailure failure with
        _ | ⟨error | fault, machine⟩ <;>
      simp [LocalRun.receiveAndRecord, received, receiveAndRecord, start_receive, start_abort,
        Program.Stateful.start_bind, handle, named, observed, localRun, start_operate,
        start_record]
  · rcases accepted : run.machine.accept envelope with _ | ⟨error | frame, machine⟩ <;>
      simp [LocalRun.receiveAndRecord, received, receiveAndRecord, start_receive,
        Program.Stateful.start_bind, handle, accepted, localRun, start_operate, start_record]

end LocalRuns

/-! ## The two roles -/

/-- The report describes what the role held when it returned. -/
structure Describes (report : ExecutionReport) (recorder : Recorder) : Prop where
  role_eq : report.role = recorder.machine.role
  frames_eq : report.frames = recorder.machine.sequence
  trace_eq : report.semanticTrace = recorder.trace
  completed_eq : recorder.machine.isComplete = some report.completed
  successful_eq : recorder.machine.isSuccessful = some report.successful
  failure_eq : recorder.machine.failure = some report.failure

section Roles

open Baton (Turn)

variable {γ : Type}

/-- What a discipline has to allow for the loops of the two roles to follow it: until a failure
ends its part, a role sends when it is its turn, and receives when it is not. -/
structure Alternates (discipline : Discipline TransportOp TransportOp.Answer γ)
    (active : Turn → γ → Recorder → Prop) (ended : γ → Recorder → Prop) : Prop where
  send : ∀ {ghost recorder action envelope machine}, active .mine ghost recorder →
    action.Plain → recorder.machine.perform action = some (.ok envelope, machine) →
      Ensures discipline (fun ghost sent recorder =>
        if sent = true then active (.sent EndpointMachine.Action.handsOver action) ghost recorder
        else ended ghost recorder)
        ghost { recorder with machine } (sendAndRecord envelope)
  receive : ∀ {ghost recorder}, active .theirs ghost recorder →
    Ensures discipline (fun ghost (received : Option Frame) recorder =>
      match received with
      | none => ended ghost recorder
      | some frame => active (.received Frame.handsOver frame) ghost recorder)
      ghost recorder receiveAndRecord

/-- The same for a discipline that does not ask whose turn it is. -/
structure Speaks (discipline : Discipline TransportOp TransportOp.Answer γ)
    (active ended : γ → Recorder → Prop) : Prop where
  send : ∀ {ghost recorder action envelope machine}, active ghost recorder →
    action.Plain → recorder.machine.perform action = some (.ok envelope, machine) →
      Ensures discipline (fun ghost sent recorder =>
        if sent = true then active ghost recorder else ended ghost recorder)
        ghost { recorder with machine } (sendAndRecord envelope)
  receive : ∀ {ghost recorder}, active ghost recorder →
    Ensures discipline (fun ghost (received : Option Frame) recorder =>
      if received.isSome = true then active ghost recorder else ended ghost recorder)
      ghost recorder receiveAndRecord

/-- What a discipline has to allow for the two roles to follow it to their end. -/
structure Conducts (discipline : Discipline TransportOp TransportOp.Answer γ)
    (active ended : γ → Recorder → Prop) : Prop extends Speaks discipline active ended where
  finish : ∀ {ghost recorder}, active ghost recorder ∨ ended ghost recorder →
    recorder.machine.isSuccessful = some true →
      ∃ finished, discipline ghost (.finish recorder.machine.role) finished ∧
        ∀ answer, active (finished answer) recorder ∨ ended (finished answer) recorder

variable {discipline : Discipline TransportOp TransportOp.Answer γ}
  {active ended : γ → Recorder → Prop} {ghost : γ} {recorder : Recorder}

theorem Speaks.alternates (speaks : Speaks discipline active ended) :
    Alternates discipline (fun _ => active) ended where
  send isActive plain performed := speaks.send isActive plain performed
  receive isActive := by
    apply (speaks.receive isActive).mono
    intro ghost received recorder holds
    cases received <;> exact holds

theorem ensures_inspect {α : Type} {query : EndpointMachine → Option α} :
    Ensures discipline (fun later value next => later = ghost ∧ next = recorder ∧
      query recorder.machine = some value) ghost recorder (inspect query) := by
  apply follows_inspect
  · intro value answered _ same
    rw [← Except.ok.inj same]
    exact ⟨rfl, rfl, answered⟩
  · intro _ _ same
    simp at same

theorem ensures_report {crates : Crates} {transport : String} {tokens : List UInt64} :
    Ensures discipline (fun later report next => later = ghost ∧ next = recorder ∧
      Describes report recorder) ghost recorder (report crates transport tokens) := by
  apply ensures_inspect.bind
  rintro _ completed _ ⟨rfl, rfl, completedEq⟩
  apply ensures_inspect.bind
  rintro _ successful _ ⟨rfl, rfl, successfulEq⟩
  apply ensures_inspect.bind
  rintro _ failure _ ⟨rfl, rfl, failureEq⟩
  intro report same
  rw [← Except.ok.inj same]
  exact ⟨rfl, rfl, rfl, rfl, rfl, completedEq, successfulEq, failureEq⟩

section Turns

variable {active : Turn → γ → Recorder → Prop}

/-- The roles branch on whether an envelope that they have just emitted was sent. -/
theorem Alternates.ensures_act {α : Type} (alternates : Alternates discipline active ended)
    (isActive : active .mine ghost recorder) (action : EndpointMachine.Action)
    (plain : action.Plain) {rest : Bool → Recording α} {post : γ → α → Recorder → Prop}
    (sent : ∀ ghost recorder,
      active (.sent EndpointMachine.Action.handsOver action) ghost recorder →
      Ensures discipline post ghost recorder (rest true))
    (unsent : ∀ ghost recorder, ended ghost recorder →
      Ensures discipline post ghost recorder (rest false)) :
    Ensures discipline post ghost recorder (do
      let envelope ← operate fun machine => machine.perform action
      let sent ← sendAndRecord envelope
      rest sent) := by
  have emitted : Ensures discipline (fun later envelope next => later = ghost ∧
      ∃ machine, next = { recorder with machine } ∧
        recorder.machine.perform action = some (.ok envelope, machine)) ghost recorder
      (operate fun machine => machine.perform action) := by
    apply follows_operate
    · intro envelope machine performed _ same
      rw [← Except.ok.inj same]
      exact ⟨rfl, machine, rfl, performed⟩
    · intro _ _ _ _ same
      simp at same
    · intro _ _ same
      simp at same
  apply emitted.bind
  rintro later envelope next ⟨sameGhost, machine, sameRecorder, performed⟩
  subst later next
  apply (alternates.send isActive plain performed).bind
  intro ghost answer recorder holds
  cases answer with
  | true => exact sent ghost recorder holds
  | false => exact unsent ghost recorder holds

theorem Alternates.ensures_receive {α : Type} (alternates : Alternates discipline active ended)
    (isActive : active .theirs ghost recorder) {rest : Option Frame → Recording α}
    {post : γ → α → Recorder → Prop}
    (received : ∀ frame ghost recorder, active (.received Frame.handsOver frame) ghost recorder →
      Ensures discipline post ghost recorder (rest (some frame)))
    (unreceived : ∀ ghost recorder, ended ghost recorder →
      Ensures discipline post ghost recorder (rest none)) :
    Ensures discipline post ghost recorder (receiveAndRecord >>= rest) := by
  apply (alternates.receive isActive).bind
  intro ghost answer recorder holds
  cases answer with
  | some frame => exact received frame ghost recorder holds
  | none => exact unreceived ghost recorder holds

end Turns

theorem ensures_ofExcept_bind {α β : Type} {result : Except RuntimeError β}
    {rest : β → Recording α} {post : γ → α → Recorder → Prop}
    (returned : ∀ value, result = .ok value → Ensures discipline post ghost recorder (rest value)) :
    Ensures discipline post ghost recorder (ofExcept result >>= rest) := by
  cases result with
  | ok value => exact returned value rfl
  | error error => exact Ensures.throw

/-- Where a role is when its loop ends. -/
def Left (active ended : γ → Recorder → Prop) (ghost : γ) (recorder : Recorder) : Prop :=
  active ghost recorder ∨ ended ghost recorder

theorem ensures_left {tokens : List UInt64} (isEnded : ended ghost recorder) :
    Ensures discipline (fun ghost _ recorder => Left active ended ghost recorder) ghost recorder
      (pure tokens : Recording (List UInt64)) :=
  Ensures.pure (.inr isEnded)

/-- The loop of the client ends where a role may end, whatever the fuel. -/
theorem Alternates.ensures_clientLoop {active : Turn → γ → Recorder → Prop}
    (alternates : Alternates discipline active ended) (cancelAfter : Option ℕ) (fuel : ℕ)
    (tokens : List UInt64) (isActive : active .theirs ghost recorder) :
    Ensures discipline (fun ghost _ recorder => Left (active .theirs) ended ghost recorder) ghost
      recorder (clientLoop cancelAfter fuel tokens) := by
  induction fuel generalizing ghost recorder tokens with
  | zero => exact Ensures.throw
  | succ fuel ih =>
      rw [clientLoop]
      apply ensures_inspect.bind
      rintro _ complete _ ⟨rfl, rfl, _⟩
      cases complete with
      | true => exact Ensures.pure (.inl isActive)
      | false =>
          apply alternates.ensures_receive isActive _ fun _ _ => ensures_left
          intro frame ghost recorder isActive
          rcases frame with _ | ⟨chooser, label⟩ | _ | _
          case select =>
            dsimp only
            split_ifs with isDone isToken
            · exact ih tokens (by simpa [Turn.received, Frame.handsOver, isDone] using isActive)
            · have waits : active .theirs ghost recorder := by
                simpa [Turn.received, Frame.handsOver, isToken] using isActive
              apply alternates.ensures_receive waits _ fun _ _ => ensures_left
              intro token ghost recorder isActive
              apply ensures_ofExcept_bind
              intro tokenId read
              rw [Turn.received, handsOver_of_tokenPayload read, if_pos rfl] at isActive
              split_ifs
              · apply alternates.ensures_act isActive (.select "cancel") (by simp) _ fun _ _ =>
                  ensures_left
                intro ghost recorder isActive
                apply alternates.ensures_act isActive .cancel (by simp) _ fun _ _ => ensures_left
                intro ghost recorder isActive
                exact ih _ isActive
              · apply alternates.ensures_act isActive (.select "continue") (by simp) _ fun _ _ =>
                  ensures_left
                intro ghost recorder isActive
                exact ih _ isActive
            · exact Ensures.throw
          all_goals exact Ensures.throw

theorem promptValue_ne_null (prompt : String) : promptValue prompt ≠ .null := by
  intro same
  simpa [promptValue, Value.null] using congrArg Value.json same

theorem tokenValue_ne_null (tokenId : UInt64) : tokenValue tokenId ≠ .null := by
  intro same
  simpa [tokenValue, Value.null] using congrArg Value.json same

theorem plain_promptValue (prompt : String) :
    (EndpointMachine.Action.data (promptValue prompt)).Plain := by
  refine EndpointMachine.Action.plain_data_iff.mpr ⟨promptValue_ne_null prompt, ?_⟩
  simp [promptValue]

theorem plain_tokenValue (tokenId : UInt64) :
    (EndpointMachine.Action.data (tokenValue tokenId)).Plain := by
  refine EndpointMachine.Action.plain_data_iff.mpr ⟨tokenValue_ne_null tokenId, ?_⟩
  simp [tokenValue]

/-- The loop of the server ends where a role may end, whatever the limit and the fuel. -/
theorem Alternates.ensures_serverLoop {active : Turn → γ → Recorder → Prop}
    (alternates : Alternates discipline active ended) (tokenLimit fuel : ℕ)
    (tokens : List UInt64) (isActive : active .mine ghost recorder) :
    Ensures discipline (fun ghost _ recorder => Left (active .mine) ended ghost recorder) ghost
      recorder (serverLoop tokenLimit fuel tokens) := by
  induction fuel generalizing ghost recorder tokens with
  | zero => exact Ensures.throw
  | succ fuel ih =>
      rw [serverLoop]
      apply ensures_inspect.bind
      rintro _ complete _ ⟨rfl, rfl, _⟩
      cases complete with
      | true => exact Ensures.pure (.inl isActive)
      | false =>
          simp only [Bool.false_eq_true, if_false]
          split_ifs
          · apply alternates.ensures_act isActive (.select "done") (by simp) _ fun _ _ =>
              ensures_left
            intro ghost recorder isActive
            exact ih tokens isActive
          · apply alternates.ensures_act isActive (.select "token") (by simp) _ fun _ _ =>
              ensures_left
            intro ghost recorder isActive
            apply alternates.ensures_act isActive (.data (tokenValue _)) (plain_tokenValue _) _
              fun _ _ => ensures_left
            intro ghost recorder isActive
            apply alternates.ensures_receive isActive _ fun _ _ => ensures_left
            intro frame ghost recorder isActive
            rcases frame with _ | ⟨chooser, label⟩ | _ | _
            case select =>
              dsimp only
              split_ifs with isContinue isCancel
              · exact ih _ (by simpa [Turn.received, Frame.handsOver, isContinue] using isActive)
              · have waits : active .theirs ghost recorder := by
                  simpa [Turn.received, Frame.handsOver, isCancel] using isActive
                apply alternates.ensures_receive waits _ fun _ _ => ensures_left
                intro frame ghost recorder isActive
                cases frame with
                | cancel => exact ih _ isActive
                | _ => exact Ensures.throw
              · exact Ensures.throw
            all_goals exact Ensures.throw

/-- What a role returns describes how its loop ended. -/
def Reported (active ended : γ → Recorder → Prop) (ghost : γ) (report : ExecutionReport)
    (recorder : Recorder) : Prop :=
  Left active ended ghost recorder ∧ Describes report recorder

theorem ensures_report_of_left {crates : Crates} {transport : String} {tokens : List UInt64}
    (left : Left active ended ghost recorder) :
    Ensures discipline (Reported active ended) ghost recorder
      (report crates transport tokens) := by
  apply ensures_report.mono
  rintro _ report _ ⟨rfl, rfl, describes⟩
  exact ⟨left, describes⟩

theorem Conducts.ensures_conclude (conducts : Conducts discipline active ended)
    {crates : Crates} {transport : String} {tokens : List UInt64}
    (left : Left active ended ghost recorder) :
    Ensures discipline (Reported active ended) ghost recorder
      (conclude crates transport tokens) := by
  apply ensures_inspect.bind
  rintro _ successful _ ⟨rfl, rfl, successfulEq⟩
  cases successful with
  | false => exact ensures_report_of_left left
  | true =>
      rcases conducts.finish left successfulEq with ⟨finished, allowed, stays⟩
      apply Ensures.get_bind
      refine Follows.ask_bind allowed fun answer => ?_
      apply ensures_ofExcept_bind
      intro _ _
      exact ensures_report_of_left (stays answer)

section Bodies

variable (crates : Crates) (transport : String) {post : γ → ExecutionReport → Recorder → Prop}

section Turns

variable {active : Turn → γ → Recorder → Prop} (alternates : Alternates discipline active ended)
  (concluded : ∀ {ghost recorder tokens turn}, Left (active turn) ended ghost recorder →
    Ensures discipline post ghost recorder (conclude crates transport tokens))
  (unsent : ∀ {ghost recorder}, ended ghost recorder →
    Ensures discipline post ghost recorder (report crates transport []))

include alternates concluded unsent

/-- The client begins, and does what its end and its early end do. -/
theorem Alternates.ensures_clientBody (prompt : String) (cancelAfter : Option ℕ) (fuel : ℕ)
    (isActive : active .mine ghost recorder) :
    Ensures discipline post ghost recorder
      (clientBody crates transport prompt cancelAfter fuel) := by
  apply alternates.ensures_act isActive (.data (promptValue prompt)) (plain_promptValue prompt)
  · intro ghost recorder isActive
    apply (alternates.ensures_clientLoop cancelAfter fuel [] isActive).bind
    intro ghost tokens recorder left
    exact concluded left
  · intro ghost recorder isEnded
    exact unsent isEnded

theorem Alternates.ensures_serverBody (tokenLimit fuel : ℕ)
    (isActive : active .theirs ghost recorder) :
    Ensures discipline post ghost recorder (serverBody crates transport tokenLimit fuel) := by
  apply alternates.ensures_receive isActive
  · intro frame ghost recorder isActive
    apply ensures_ofExcept_bind
    intro _ read
    rw [Turn.received, handsOver_of_promptPayload read, if_pos rfl] at isActive
    apply (alternates.ensures_serverLoop tokenLimit fuel [] isActive).bind
    intro ghost tokens recorder left
    exact concluded left
  · intro ghost recorder isEnded
    exact unsent isEnded

end Turns

variable (speaks : Speaks discipline active ended)
  (concluded : ∀ {ghost recorder tokens}, Left active ended ghost recorder →
    Ensures discipline post ghost recorder (conclude crates transport tokens))
  (unsent : ∀ {ghost recorder}, ended ghost recorder →
    Ensures discipline post ghost recorder (report crates transport []))

include speaks concluded unsent

theorem Speaks.ensures_clientBody (prompt : String) (cancelAfter : Option ℕ) (fuel : ℕ)
    (isActive : active ghost recorder) :
    Ensures discipline post ghost recorder
      (clientBody crates transport prompt cancelAfter fuel) :=
  speaks.alternates.ensures_clientBody crates transport concluded unsent prompt cancelAfter fuel
    isActive

theorem Speaks.ensures_serverBody (tokenLimit fuel : ℕ) (isActive : active ghost recorder) :
    Ensures discipline post ghost recorder (serverBody crates transport tokenLimit fuel) :=
  speaks.alternates.ensures_serverBody crates transport concluded unsent tokenLimit fuel isActive

end Bodies

theorem Conducts.ensures_clientBody (conducts : Conducts discipline active ended)
    (crates : Crates) (transport prompt : String) (cancelAfter : Option ℕ) (fuel : ℕ)
    (isActive : active ghost recorder) :
    Ensures discipline (Reported active ended) ghost recorder
      (clientBody crates transport prompt cancelAfter fuel) :=
  conducts.toSpeaks.ensures_clientBody crates transport conducts.ensures_conclude
    (fun isEnded => ensures_report_of_left (.inr isEnded)) prompt cancelAfter fuel isActive

theorem Conducts.ensures_serverBody (conducts : Conducts discipline active ended)
    (crates : Crates) (transport : String) (tokenLimit fuel : ℕ)
    (isActive : active ghost recorder) :
    Ensures discipline (Reported active ended) ghost recorder
      (serverBody crates transport tokenLimit fuel) :=
  conducts.toSpeaks.ensures_serverBody crates transport conducts.ensures_conclude
    (fun isEnded => ensures_report_of_left (.inr isEnded)) tokenLimit fuel isActive

end Roles

end Recording

end Colloq
