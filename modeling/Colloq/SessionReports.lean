import Colloq.Delivery
import Colloq.Identity

/-!
# Verifying captured session reports

A report names the plan and the trace of a run by their digests. The trace of a
role determines where its machine stands and the tokens that it holds, so that the
digests say as much as the traces do. They do not say who captured a report.
-/

namespace Colloq

open Checked (ensure forEach)
open Function (Injective)
open Program (Discipline Path)
open Program.Stateful (Ensures)

structure MultiNodeSessionReport where
  conversationIdentity : String
  planIdentity : String
  semanticTraceIdentity : String
  semanticTraceEquivalent : Bool
  outcomeEquivalent : Bool
  client : ExecutionReport
  server : ExecutionReport
deriving DecidableEq

/-- The errors are those of `std::io::Error::other`, by their texts. -/
def verifySessionReports (client server : ExecutionReport) :
    Except String MultiNodeSessionReport := do
  forEach
    [("conversation_identity", client.conversationIdentity, server.conversationIdentity),
      ("plan_identity", client.planIdentity, server.planIdentity)]
    fun (field, clientValue, serverValue) =>
      ensure (clientValue = serverValue)
        s!"multi-node {field} mismatch: client {clientValue}, server {serverValue}"
  let semanticTraceEquivalent :=
    client.semanticTraceIdentity == server.semanticTraceIdentity
  let outcomeEquivalent := client.completed && server.completed &&
    client.successful == server.successful && client.failure == server.failure &&
    client.tokens == server.tokens
  ensure (semanticTraceEquivalent = true ∧ outcomeEquivalent = true)
    "multi-node reports do not describe an equivalent Colloq execution"
  return {
    conversationIdentity := client.conversationIdentity
    planIdentity := client.planIdentity
    semanticTraceIdentity := client.semanticTraceIdentity
    semanticTraceEquivalent, outcomeEquivalent, client, server }

/-! ## What a trace says -/

theorem Frame.toJson_injective : Injective Frame.toJson := by
  intro first second same
  rcases first with ⟨_, _, _, _ | _⟩ | _ | _ | _ <;>
    rcases second with ⟨_, _, _, _ | _⟩ | _ | _ | _ <;>
      simp_all [toJson, Serde.skipNone]

def traceJson (trace : List Frame) : Json := .array (trace.map Frame.toJson)

theorem traceIdentity_eq_iff {crates : Crates} (injective : Injective crates.toVec)
    {first second : List Frame}
    (distinguishes : crates.Distinguishes (traceJson first) (traceJson second)) :
    traceIdentity crates first = traceIdentity crates second ↔ first = second := by
  constructor
  · intro same
    exact array_injective Frame.toJson_injective
      (eq_of_sha256Identity injective distinguishes same)
  · intro same
    rw [same]

/-- The token that a frame carries. -/
def Frame.token : Frame → Option UInt64
  | .data _ _ _ (some payload) => (payload.get "id").bind Json.asU64
  | _ => none

/-- The tokens of a trace are those of its frames after the prompt. -/
def tokensOf (trace : List Frame) : List UInt64 := trace.tail.filterMap Frame.token

theorem tokensOf_singleton (frame : Frame) : tokensOf [frame] = [] := rfl

theorem tokensOf_snoc {trace : List Frame} (begun : trace ≠ []) (frame : Frame) :
    tokensOf (trace ++ [frame]) = tokensOf trace ++ frame.token.toList := by
  rw [tokensOf, List.tail_append_of_ne_nil begun, List.filterMap_append, tokensOf]
  cases carried : frame.token <;> simp [carried]

theorem token_of_tokenPayload {frame : Frame} {tokenId : UInt64}
    (read : tokenPayload frame = .ok tokenId) : frame.token = some tokenId := by
  unfold tokenPayload at read
  split at read
  · split at read
    · rename_i found
      rw [Frame.token, found, Except.ok.inj read]
    · simp at read
  · simp at read

theorem token_of_action {frame : Frame} {tokenId : UInt64}
    (acts : frame.action = some (.data (tokenValue tokenId))) : frame.token = some tokenId := by
  rcases frame with ⟨_, _, _, _ | payload⟩ | _ | _ | _ <;> simp [Frame.action] at acts
  rw [acts]
  rfl

theorem token_of_action_select {frame : Frame} {label : String}
    (acts : frame.action = some (.select label)) : frame.token = none := by
  cases frame <;> simp_all [Frame.action, Frame.token]

theorem token_of_action_cancel {frame : Frame}
    (acts : frame.action = some .cancel) : frame.token = none := by
  cases frame <;> simp_all [Frame.action, Frame.token]

/-! ## Recorders -/

variable {crates : Crates} {conversation : Conversation} {role : String}

namespace Recorder

/-- The machine of the role has come from its initial state along the trace. -/
structure Retraces (crates : Crates) (conversation : Conversation) (role : String)
    (recorder : Recorder) : Prop where
  executes : recorder.machine.Executes conversation
  role_eq : recorder.machine.role = role
  conversationIdentity_eq : recorder.machine.conversationIdentity =
    conversationIdentityValidated crates conversation
  planIdentity_eq : recorder.machine.planIdentity =
    (conversation.compiledPlan crates).planIdentity
  traced : conversation.run conversation.initial recorder.trace = some recorder.machine.current

/-- The tokens that a role holds are those of its trace, which has begun. -/
structure Tallies (crates : Crates) (conversation : Conversation) (role : String)
    (tokens : List UInt64) (recorder : Recorder) : Prop
    extends recorder.Retraces crates conversation role where
  begun : recorder.trace ≠ []
  tokens_eq : tokens = tokensOf recorder.trace

variable {recorder next : Recorder} {tokens : List UInt64} {frame : Frame}

theorem retraces_initial (compilable : conversation.Compilable)
    (hasRole : conversation.HasRole role) :
    Retraces crates conversation role
      { machine := conversation.initialMachine crates role, trace := [] } :=
  ⟨compilable.executes_initialMachine hasRole, rfl, rfl, rfl, rfl⟩

/-- The machine takes one step along the graph, and the frame of the step is recorded. -/
theorem Retraces.moved (retraces : recorder.Retraces crates conversation role)
    {current : String} {sequence : UInt64}
    (allowed : conversation.next recorder.machine.current frame = some current) :
    Retraces crates conversation role
      { machine := { recorder.machine with current, sequence }
        trace := recorder.trace ++ [frame] } where
  executes := ⟨retraces.executes.wellFormed, retraces.executes.endpoint_eq,
    retraces.executes.role_mem, retraces.executes.wellFormed.hasState_next allowed⟩
  role_eq := retraces.role_eq
  conversationIdentity_eq := retraces.conversationIdentity_eq
  planIdentity_eq := retraces.planIdentity_eq
  traced := Conversation.run_snoc retraces.traced allowed

theorem Retraces.accepted (retraces : recorder.Retraces crates conversation role)
    {envelope : WireEnvelope} {machine : EndpointMachine}
    (accepted : recorder.machine.accept envelope = some (.ok frame, machine)) :
    Retraces crates conversation role { machine, trace := recorder.trace ++ [frame] } := by
  rcases retraces.executes.accept_eq_ok_iff.mp accepted with ⟨_, _, next, allowed, moved⟩
  subst machine
  exact retraces.moved allowed

theorem Retraces.observed (retraces : recorder.Retraces crates conversation role)
    {failure : String} {machine : EndpointMachine}
    (observed : recorder.machine.observeFailure failure = some (.ok frame, machine)) :
    frame = .fault role failure ∧
      Retraces crates conversation role { machine, trace := recorder.trace ++ [frame] } := by
  rcases retraces.executes.observeFailureAt_eq_ok_iff.mp observed with
    ⟨faulted, next, allowed, moved⟩
  subst frame machine
  rw [retraces.role_eq] at allowed ⊢
  exact ⟨rfl, retraces.moved allowed⟩

/-- What the machine has emitted, sent or lost. -/
theorem Retraces.performed (retraces : recorder.Retraces crates conversation role)
    {action : EndpointMachine.Action} {envelope : WireEnvelope} {machine : EndpointMachine}
    (performed : recorder.machine.perform action = some (.ok envelope, machine)) :
    envelope.frame.action = some action ∧
      Retraces crates conversation role
        { machine, trace := recorder.trace ++ [envelope.frame] } ∧
      ∀ failure fault after,
        machine.observeFailureAt envelope.state failure = some (.ok fault, after) →
        fault = .fault role failure ∧
          Retraces crates conversation role
            { machine := after, trace := recorder.trace ++ [fault] } := by
  rcases retraces.executes.perform_eq_ok_iff.mp performed with
    ⟨frame, current, acts, _, allowed, sealed, moved⟩
  subst envelope machine
  refine ⟨acts, retraces.moved allowed, ?_⟩
  intro failure fault after observed
  have executes := retraces.executes.moved (retraces.executes.wellFormed.hasState_next allowed)
  rcases executes.observeFailureAt_eq_ok_iff.mp observed with ⟨faulted, target, declared, fell⟩
  subst fault after
  have sameRole : (recorder.machine.moved current).role = role := retraces.role_eq
  rw [sameRole] at declared ⊢
  exact ⟨rfl, retraces.moved declared⟩

/-- The first frame of a trace carries no token. -/
theorem Retraces.begin (retraces : next.Retraces crates conversation role)
    (recorded : next.trace = [frame]) : next.Tallies crates conversation role [] :=
  { retraces with
    begun := by simp [recorded]
    tokens_eq := by rw [recorded, tokensOf_singleton] }

theorem Tallies.snoc (tallies : recorder.Tallies crates conversation role tokens)
    (retraces : next.Retraces crates conversation role)
    (recorded : next.trace = recorder.trace ++ [frame]) :
    next.Tallies crates conversation role (tokens ++ frame.token.toList) :=
  { retraces with
    begun := by simp [recorded]
    tokens_eq := by rw [recorded, tokensOf_snoc tallies.begun, tallies.tokens_eq] }

theorem Tallies.snoc_none (tallies : recorder.Tallies crates conversation role tokens)
    (retraces : next.Retraces crates conversation role)
    (recorded : next.trace = recorder.trace ++ [frame]) (without : frame.token = none) :
    next.Tallies crates conversation role tokens := by
  simpa [without] using tallies.snoc retraces recorded

end Recorder

namespace Recording

open Recorder (Retraces Tallies)

/-- A transport may answer anything. -/
def anything : Discipline TransportOp TransportOp.Answer Unit := fun _ _ _ => True

variable {α : Type} {recorder : Recorder} {post : Unit → α → Recorder → Prop}

/-- An act of a role either adds its frame to the trace or, if it is not sent, the fault of the
role. -/
theorem ensures_act (retraces : recorder.Retraces crates conversation role)
    (action : EndpointMachine.Action) {rest : Bool → Recording α}
    (sent : ∀ frame next, frame.action = some action →
      Retraces crates conversation role next → next.trace = recorder.trace ++ [frame] →
        Ensures anything post () next (rest true))
    (lost : ∀ failure next, Retraces crates conversation role next →
      next.trace = recorder.trace ++ [.fault role failure] →
        Ensures anything post () next (rest false)) :
    Ensures anything post () recorder (do
      let envelope ← operate fun machine => machine.perform action
      let sent ← sendAndRecord envelope
      rest sent) := by
  have emitted : Ensures anything (fun _ envelope next => ∃ machine,
      next = { recorder with machine } ∧
        recorder.machine.perform action = some (.ok envelope, machine)) () recorder
      (operate fun machine => machine.perform action) := by
    apply follows_operate
    · intro envelope machine performed _ same
      rw [← Except.ok.inj same]
      exact ⟨machine, rfl, performed⟩
    · intro _ _ _ _ same
      simp at same
    · intro _ _ same
      simp at same
  apply emitted.bind
  intro _ envelope next holds
  rcases holds with ⟨machine, held, performed⟩
  subst next
  rcases retraces.performed performed with ⟨acts, moved, fell⟩
  have sends : Ensures anything (fun _ answer next =>
      (answer = true → Retraces crates conversation role next ∧
        next.trace = recorder.trace ++ [envelope.frame]) ∧
      (answer = false → ∃ failure, Retraces crates conversation role next ∧
        next.trace = recorder.trace ++ [.fault role failure])) ()
      { recorder with machine } (sendAndRecord envelope) := by
    have allowed : anything () (.send envelope) fun _ => () := trivial
    apply follows_sendAndRecord allowed
    · intro _ same
      rw [← Except.ok.inj same]
      exact ⟨fun _ => ⟨moved, rfl⟩, by simp⟩
    · intro _ _ _ same
      simp at same
    · intro error failure _
      refine ⟨fun _ => (), trivial, ?_, by simp, by simp⟩
      intro fault after observed _ same
      rcases fell failure fault after observed with ⟨faulted, retraced⟩
      subst fault
      rw [← Except.ok.inj same]
      exact ⟨by simp, fun _ => ⟨failure, retraced, rfl⟩⟩
  apply sends.bind
  intro _ answer next holds
  cases answer with
  | true => exact sent _ _ acts (holds.1 rfl).1 (holds.1 rfl).2
  | false =>
      rcases holds.2 rfl with ⟨failure, retraced, recorded⟩
      exact lost failure next retraced recorded

/-- A receipt adds the frame that has been accepted, or a fault. -/
theorem ensures_receive (retraces : recorder.Retraces crates conversation role)
    {rest : Option Frame → Recording α}
    (received : ∀ frame next, Retraces crates conversation role next →
      next.trace = recorder.trace ++ [frame] → Ensures anything post () next (rest (some frame)))
    (lost : ∀ failure next, Retraces crates conversation role next →
      next.trace = recorder.trace ++ [.fault role failure] →
        Ensures anything post () next (rest none)) :
    Ensures anything post () recorder (receiveAndRecord >>= rest) := by
  have receives : Ensures anything (fun _ answer next =>
      Retraces crates conversation role next ∧
      match answer with
      | some frame => next.trace = recorder.trace ++ [frame]
      | none => ∃ failure, next.trace = recorder.trace ++ [.fault role failure]) ()
      recorder receiveAndRecord := by
    have allowed : anything () .receive fun _ => () := trivial
    apply follows_receiveAndRecord allowed
    · intro envelope
      refine ⟨?_, by simp, by simp⟩
      intro frame machine accepted _ same
      rw [← Except.ok.inj same]
      exact ⟨retraces.accepted accepted, rfl⟩
    · intro _ _ _ same
      simp at same
    · intro error failure _
      refine ⟨fun _ => (), trivial, ?_, by simp, by simp⟩
      intro fault after observed _ same
      rcases retraces.observed observed with ⟨faulted, retraced⟩
      subst fault
      rw [← Except.ok.inj same]
      exact ⟨retraced, failure, rfl⟩
  apply receives.bind
  intro _ answer next holds
  rcases holds with ⟨retraced, recorded⟩
  cases answer with
  | some frame => exact received frame next retraced recorded
  | none =>
      rcases recorded with ⟨failure, recorded⟩
      exact lost failure next retraced recorded

theorem ensures_ofExcept {result : Except RuntimeError α} :
    Ensures anything (fun _ value next => next = recorder ∧ result = .ok value) () recorder
      (ofExcept result) := by
  apply follows_ofExcept
  · intro value returned _ same
    rw [← Except.ok.inj same]
    exact ⟨rfl, returned⟩
  · intro _ _ _ same
    simp at same

/-! ## The two roles -/

/-- The tokens that a loop returns are those of the trace that it leaves. -/
abbrev EnsuresTally (crates : Crates) (conversation : Conversation) (role : String)
    (recorder : Recorder) (program : Recording (List UInt64)) : Prop :=
  Ensures anything (fun _ tokens recorder => recorder.Tallies crates conversation role tokens)
    () recorder program

variable {tokens : List UInt64}

theorem ensures_lost {failure : String} {next : Recorder}
    (tallies : recorder.Tallies crates conversation role tokens)
    (retraces : next.Retraces crates conversation role)
    (recorded : next.trace = recorder.trace ++ [.fault role failure]) :
    EnsuresTally crates conversation role next (pure tokens) :=
  Ensures.pure (tallies.snoc_none retraces recorded rfl)

/-- The loop of the client keeps account of the tokens of its trace. -/
theorem ensures_clientLoop (cancelAfter : Option ℕ) (fuel : ℕ)
    (tallies : recorder.Tallies crates conversation role tokens) :
    EnsuresTally crates conversation role recorder (clientLoop cancelAfter fuel tokens) := by
  induction fuel generalizing recorder tokens with
  | zero => exact Ensures.throw
  | succ fuel ih =>
      rw [clientLoop]
      apply ensures_inspect.bind
      rintro _ complete _ ⟨_, rfl, _⟩
      cases complete with
      | true => exact Ensures.pure tallies
      | false =>
          apply ensures_receive tallies.toRetraces _ fun _ _ => ensures_lost tallies
          intro frame heard retraces recorded
          rcases frame with _ | ⟨chooser, label⟩ | _ | _
          case select =>
            have tallies := tallies.snoc_none retraces recorded rfl
            dsimp only
            split_ifs
            · exact ih tallies
            · apply ensures_receive tallies.toRetraces _ fun _ _ => ensures_lost tallies
              intro token taken retraces recorded
              apply ensures_ofExcept.bind
              rintro _ tokenId _ ⟨rfl, read⟩
              have tallies := tallies.snoc retraces recorded
              rw [token_of_tokenPayload read, Option.toList_some] at tallies
              split_ifs
              · apply ensures_act tallies.toRetraces (.select "cancel") _
                  fun _ _ => ensures_lost tallies
                intro selection next acts retraces recorded
                have tallies := tallies.snoc_none retraces recorded (token_of_action_select acts)
                apply ensures_act tallies.toRetraces .cancel _ fun _ _ => ensures_lost tallies
                intro cancellation next acts retraces recorded
                exact ih (tallies.snoc_none retraces recorded (token_of_action_cancel acts))
              · apply ensures_act tallies.toRetraces (.select "continue") _
                  fun _ _ => ensures_lost tallies
                intro selection next acts retraces recorded
                exact ih (tallies.snoc_none retraces recorded (token_of_action_select acts))
            · exact Ensures.throw
          all_goals exact Ensures.throw

/-- So does the loop of the server, which has sent them. -/
theorem ensures_serverLoop (tokenLimit fuel : ℕ)
    (tallies : recorder.Tallies crates conversation role tokens) :
    EnsuresTally crates conversation role recorder (serverLoop tokenLimit fuel tokens) := by
  induction fuel generalizing recorder tokens with
  | zero => exact Ensures.throw
  | succ fuel ih =>
      rw [serverLoop]
      apply ensures_inspect.bind
      rintro _ complete _ ⟨_, rfl, _⟩
      cases complete with
      | true => exact Ensures.pure tallies
      | false =>
          simp only [Bool.false_eq_true, if_false]
          split_ifs
          · apply ensures_act tallies.toRetraces (.select "done") _
              fun _ _ => ensures_lost tallies
            intro done next acts retraces recorded
            exact ih (tallies.snoc_none retraces recorded (token_of_action_select acts))
          · apply ensures_act tallies.toRetraces (.select "token") _
              fun _ _ => ensures_lost tallies
            intro selection next acts retraces recorded
            have tallies := tallies.snoc_none retraces recorded (token_of_action_select acts)
            apply ensures_act tallies.toRetraces (.data (tokenValue _)) _
              fun _ _ => ensures_lost tallies
            intro token next acts retraces recorded
            have tallies := tallies.snoc retraces recorded
            rw [token_of_action acts, Option.toList_some] at tallies
            apply ensures_receive tallies.toRetraces _ fun _ _ => ensures_lost tallies
            intro frame heard retraces recorded
            rcases frame with _ | ⟨chooser, label⟩ | _ | _
            case select =>
              have tallies := tallies.snoc_none retraces recorded rfl
              dsimp only
              split_ifs
              · exact ih tallies
              · apply ensures_receive tallies.toRetraces _
                  fun _ _ => ensures_lost tallies
                intro frame heard retraces recorded
                cases frame with
                | cancel => exact ih (tallies.snoc_none retraces recorded rfl)
                | _ => exact Ensures.throw
              · exact Ensures.throw
            all_goals exact Ensures.throw

end Recording

/-- What a report says is determined by the conversation, the role and the trace. -/
structure ExecutionReport.Accounts (crates : Crates) (conversation : Conversation) (role : String)
    (report : ExecutionReport) : Prop where
  role_eq : report.role = role
  conversationIdentity_eq : report.conversationIdentity =
    conversationIdentityValidated crates conversation
  planIdentity_eq : report.planIdentity = (conversation.compiledPlan crates).planIdentity
  traceIdentity_eq : report.semanticTraceIdentity = traceIdentity crates report.semanticTrace
  tokens_eq : report.tokens = tokensOf report.semanticTrace
  ran : conversation.run conversation.initial report.semanticTrace = some report.finalState
  judged : ∃ state, conversation.stateMap[report.finalState]? = some state ∧
    report.completed = (state.report 0 report.finalState).complete ∧
    report.successful = (state.report 0 report.finalState).successful ∧
    report.failure = (state.report 0 report.finalState).failure

namespace Recording

open ExecutionReport (Accounts)
open Recorder (Retraces Tallies retraces_initial)

variable {recorder : Recorder} {tokens : List UInt64}

/-- A role accounts for its run when it returns. -/
abbrev EnsuresAccount (crates : Crates) (conversation : Conversation) (role : String)
    (recorder : Recorder) (program : Recording ExecutionReport) : Prop :=
  Ensures anything (fun _ report _ => report.Accounts crates conversation role) () recorder program

/-- A report repeats what the recorder holds, and nothing more. -/
theorem accounts_report (transport : String)
    (tallies : recorder.Tallies crates conversation role tokens) :
    EnsuresAccount crates conversation role recorder (report crates transport tokens) := by
  rcases tallies.executes.state_eq with ⟨state, _, found, _⟩
  rcases tallies.executes.report_eq found 0 with ⟨complete, successful, failure⟩
  apply ensures_inspect.bind
  rintro _ _ _ ⟨_, rfl, completed⟩
  apply ensures_inspect.bind
  rintro _ _ _ ⟨_, rfl, succeeded⟩
  apply ensures_inspect.bind
  rintro _ _ _ ⟨_, rfl, failed⟩
  rw [complete, Option.some.injEq] at completed
  rw [successful, Option.some.injEq] at succeeded
  rw [failure, Option.some.injEq] at failed
  intro report same
  rw [← Except.ok.inj same]
  exact
    { role_eq := tallies.role_eq
      conversationIdentity_eq := tallies.conversationIdentity_eq
      planIdentity_eq := tallies.planIdentity_eq
      traceIdentity_eq := rfl
      tokens_eq := tallies.tokens_eq
      ran := tallies.traced
      judged := ⟨state, found, completed.symm, succeeded.symm, failed.symm⟩ }

theorem accounts_conclude (transport : String)
    (tallies : recorder.Tallies crates conversation role tokens) :
    EnsuresAccount crates conversation role recorder (conclude crates transport tokens) := by
  apply ensures_inspect.bind
  intro _ successful next holds
  rcases holds with ⟨_, same, _⟩
  subst next
  cases successful with
  | false => exact accounts_report transport tallies
  | true =>
      apply Ensures.get_bind
      have allowed : anything () (.finish recorder.machine.role) fun _ => () := trivial
      apply Program.Stateful.Follows.ask_bind allowed
      intro answer
      apply ensures_ofExcept.bind
      rintro _ _ _ ⟨rfl, _⟩
      exact accounts_report transport tallies

theorem accounts_clientBody (transport prompt : String) (cancelAfter : Option ℕ) (fuel : ℕ)
    (retraces : recorder.Retraces crates conversation role) (empty : recorder.trace = []) :
    EnsuresAccount crates conversation role recorder
      (clientBody crates transport prompt cancelAfter fuel) := by
  apply ensures_act retraces (.data (promptValue prompt))
  · intro frame next _ retraces recorded
    rw [empty, List.nil_append] at recorded
    apply (ensures_clientLoop cancelAfter fuel (retraces.begin recorded)).bind
    intro _ tokens next tallies
    exact accounts_conclude transport tallies
  · intro failure next retraces recorded
    rw [empty, List.nil_append] at recorded
    exact accounts_report transport (retraces.begin recorded)

theorem accounts_serverBody (transport : String) (tokenLimit fuel : ℕ)
    (retraces : recorder.Retraces crates conversation role) (empty : recorder.trace = []) :
    EnsuresAccount crates conversation role recorder
      (serverBody crates transport tokenLimit fuel) := by
  apply ensures_receive retraces
  · intro prompt next retraces recorded
    rw [empty, List.nil_append] at recorded
    apply ensures_ofExcept.bind
    rintro _ _ _ ⟨rfl, _⟩
    apply (ensures_serverLoop tokenLimit fuel (retraces.begin recorded)).bind
    intro _ tokens next tallies
    exact accounts_conclude transport tallies
  · intro failure next retraces recorded
    rw [empty, List.nil_append] at recorded
    exact accounts_report transport (retraces.begin recorded)

theorem accounts_of_runRole {plan : PreparedPlan} {body : Recording ExecutionReport}
    (compiled : PreparedPlan.compile crates conversation = .ok plan)
    (ensures : ∀ recorder, Retraces crates conversation role recorder → recorder.trace = [] →
      EnsuresAccount crates conversation role recorder body)
    {events : List (Program.Event TransportOp.Answer)} {report : ExecutionReport}
    (path : Path (runRole plan role body) events (.done (.ok report))) :
    report.Accounts crates conversation role := by
  rcases Conversation.preparedPlan_compile_eq_ok_iff.mp compiled with ⟨compilable, rfl⟩
  rcases created : EndpointMachine.fromPlan (conversation.preparedPlan crates) role with
    error | machine
  · simp only [runRole, created] at path
    cases path
  · rcases Conversation.fromPlan_preparedPlan_eq_ok_iff.mp created with ⟨hasRole, rfl⟩
    simp only [runRole, created] at path
    have ensured := (ensures _ (retraces_initial compilable hasRole) rfl).result
    rcases ensured.path path with ⟨_, _, ended⟩
    rcases ended report rfl with ⟨_, accounts⟩
    exact accounts

end Recording

/-! ## Produced reports -/

namespace ExecutionReport

open Recording (accounts_of_runRole accounts_clientBody accounts_serverBody)

/-- The client returned this report, over a transport that may have answered anything. -/
def ProducedByClient (crates : Crates) (conversation : Conversation) (report : ExecutionReport) :
    Prop :=
  ∃ plan transport prompt cancelAfter fuel events,
    PreparedPlan.compile crates conversation = .ok plan ∧
      Path (runGenerateClientPlan crates plan transport prompt cancelAfter fuel) events
        (.done (.ok report))

def ProducedByServer (crates : Crates) (conversation : Conversation) (report : ExecutionReport) :
    Prop :=
  ∃ plan transport tokenLimit fuel events,
    PreparedPlan.compile crates conversation = .ok plan ∧
      Path (runGenerateServerPlan crates plan transport tokenLimit fuel) events
        (.done (.ok report))

def Produced (crates : Crates) (conversation : Conversation) (report : ExecutionReport) : Prop :=
  report.ProducedByClient crates conversation ∨ report.ProducedByServer crates conversation

variable {report : ExecutionReport}

theorem ProducedByClient.accounts (produced : report.ProducedByClient crates conversation) :
    report.Accounts crates conversation "client" := by
  rcases produced with ⟨plan, transport, prompt, cancelAfter, fuel, events, compiled, path⟩
  rw [runGenerateClientPlan] at path
  split_ifs at path with zero
  · cases path
  · apply accounts_of_runRole compiled _ path
    intro recorder retraces empty
    exact accounts_clientBody transport prompt cancelAfter fuel retraces empty

theorem ProducedByServer.accounts (produced : report.ProducedByServer crates conversation) :
    report.Accounts crates conversation "server" := by
  rcases produced with ⟨plan, transport, tokenLimit, fuel, events, compiled, path⟩
  apply accounts_of_runRole compiled _ path
  intro recorder retraces empty
  exact accounts_serverBody transport tokenLimit fuel retraces empty

theorem Produced.accounts (produced : report.Produced crates conversation) :
    report.Accounts crates conversation report.role := by
  rcases produced with client | server
  · rw [client.accounts.role_eq]
    exact client.accounts
  · rw [server.accounts.role_eq]
    exact server.accounts

/-- The role that a report names is the one that produced it. -/
theorem Produced.byClient_iff (produced : report.Produced crates conversation) :
    report.ProducedByClient crates conversation ↔ report.role = "client" := by
  constructor
  · intro client
    exact client.accounts.role_eq
  · intro named
    rcases produced with client | server
    · exact client
    · rw [server.accounts.role_eq] at named
      simp at named

theorem Produced.byServer_iff (produced : report.Produced crates conversation) :
    report.ProducedByServer crates conversation ↔ report.role = "server" := by
  constructor
  · intro server
    exact server.accounts.role_eq
  · intro named
    rcases produced with client | server
    · rw [client.accounts.role_eq] at named
      simp at named
    · exact server

/-- The digests of two reports confuse neither their conversations, nor their plans, nor their
traces. -/
structure Distinguished (crates : Crates) (first second : Conversation)
    (client server : ExecutionReport) : Prop where
  conversations : crates.Distinguishes first.semantic.toJson second.semantic.toJson
  plans : crates.Distinguishes (first.compiledPlan crates).semanticJson
    (second.compiledPlan crates).semanticJson
  traces : crates.Distinguishes (traceJson client.semanticTrace) (traceJson server.semanticTrace)

section Pairs

variable {first second : Conversation} {client server : ExecutionReport}
  {clientRole serverRole : String}

/-- Equal traces of one plan end in one state, with one outcome and the same tokens. -/
theorem Accounts.outcome_eq
    (accounts : client.Accounts crates first clientRole)
    (peer : server.Accounts crates second serverRole)
    (sameMeaning : first.semantic = second.semantic)
    (sameTrace : client.semanticTrace = server.semanticTrace) :
    client.finalState = server.finalState ∧ client.completed = server.completed ∧
      client.successful = server.successful ∧ client.failure = server.failure ∧
      client.tokens = server.tokens := by
  have ran : first.semantic.run first.semantic.initial client.semanticTrace =
      some client.finalState := accounts.ran
  have peerRan : second.semantic.run second.semantic.initial server.semanticTrace =
      some server.finalState := peer.ran
  rw [sameMeaning, sameTrace, peerRan, Option.some.injEq] at ran
  rcases accounts.judged with ⟨state, found, completed, successful, failure⟩
  rcases peer.judged with ⟨other, peerFound, peerCompleted, peerSuccessful, peerFailure⟩
  have here : first.semantic.stateMap[client.finalState]? = some state := found
  have there : second.semantic.stateMap[server.finalState]? = some other := peerFound
  rw [sameMeaning, ← ran, there, Option.some.injEq] at here
  subst state
  rw [completed, successful, failure, peerCompleted, peerSuccessful, peerFailure, ← ran,
    accounts.tokens_eq, peer.tokens_eq, sameTrace]
  exact ⟨rfl, rfl, rfl, rfl, rfl⟩

theorem Accounts.meaning_eq_of_planIdentity (injective : Injective crates.toVec)
    (distinguished : Distinguished crates first second client server)
    (accounts : client.Accounts crates first clientRole)
    (peer : server.Accounts crates second serverRole)
    (same : client.planIdentity = server.planIdentity) : first.semantic = second.semantic := by
  rw [accounts.planIdentity_eq, peer.planIdentity_eq] at same
  have plans := ColloqPlan.eq_of_calculateIdentity injective distinguished.plans
    Conversation.planIdentity_compiledPlan Conversation.planIdentity_compiledPlan same
  apply (Conversation.conversationIdentity_eq_iff injective distinguished.conversations).mp
  rw [plans]

theorem exists_verifySessionReports_iff :
    (∃ session, verifySessionReports client server = .ok session) ↔
      client.conversationIdentity = server.conversationIdentity ∧
      client.planIdentity = server.planIdentity ∧
      client.semanticTraceIdentity = server.semanticTraceIdentity ∧
      client.completed = true ∧ server.completed = true ∧
      client.successful = server.successful ∧ client.failure = server.failure ∧
      client.tokens = server.tokens := by
  simp only [verifySessionReports, Checked.check_bind_eq_ok_iff, Checked.forEach_eq_ok_iff,
    Checked.ensure_eq_ok_iff]
  simp [and_assoc, pure, Except.pure]

/-- A pair is accepted as soon as plans, traces and outcomes agree, whoever captured it. -/
theorem Accounts.verified_iff (injective : Injective crates.toVec)
    (distinguished : Distinguished crates first second client server)
    (accounts : client.Accounts crates first clientRole)
    (peer : server.Accounts crates second serverRole) :
    (∃ session, verifySessionReports client server = .ok session) ↔
      client.planIdentity = server.planIdentity ∧
        client.semanticTrace = server.semanticTrace ∧ client.completed = true := by
  rw [exists_verifySessionReports_iff, accounts.traceIdentity_eq, peer.traceIdentity_eq,
    traceIdentity_eq_iff injective distinguished.traces]
  constructor
  · rintro ⟨_, plans, traces, completed, _⟩
    exact ⟨plans, traces, completed⟩
  · rintro ⟨plans, traces, completed⟩
    have meaning := accounts.meaning_eq_of_planIdentity injective distinguished peer plans
    rcases accounts.outcome_eq peer meaning traces with
      ⟨_, sameCompleted, successful, failure, tokens⟩
    refine ⟨?_, plans, traces, completed, ?_, successful, failure, tokens⟩
    · rw [accounts.conversationIdentity_eq, peer.conversationIdentity_eq]
      change sha256Identity crates (crates.toVec first.semantic.toJson) =
        sha256Identity crates (crates.toVec second.semantic.toJson)
      rw [meaning]
    · rw [← sameCompleted]
      exact completed

/-- The flags of the demo say the same about two reports of one plan. -/
theorem Accounts.equivalent_iff (injective : Injective crates.toVec)
    (distinguished : Distinguished crates first second client server)
    (accounts : client.Accounts crates first clientRole)
    (peer : server.Accounts crates second serverRole)
    (plans : client.planIdentity = server.planIdentity) (transportPlan : String) :
    (demoReport transportPlan client server).semanticTraceEquivalent = true ∧
        (demoReport transportPlan client server).outcomeEquivalent = true ↔
      client.semanticTrace = server.semanticTrace ∧ client.completed = true := by
  simp only [demoReport, beq_iff_eq, Bool.and_eq_true]
  constructor
  · rintro ⟨traces, ⟨⟨⟨completed, _⟩, _⟩, _⟩, _⟩
    exact ⟨traces, completed⟩
  · rintro ⟨traces, completed⟩
    have meaning := accounts.meaning_eq_of_planIdentity injective distinguished peer plans
    rcases accounts.outcome_eq peer meaning traces with
      ⟨finals, sameCompleted, successful, failure, _⟩
    refine ⟨traces, ⟨⟨⟨completed, ?_⟩, successful⟩, failure⟩, finals⟩
    rw [← sameCompleted]
    exact completed

end Pairs

/-- The two reports are the two sides of one session. -/
def OneSession (crates : Crates) (first second : Conversation) (client server : ExecutionReport) :
    Prop :=
  client.ProducedByClient crates first ∧ server.ProducedByServer crates second ∧
    client.planIdentity = server.planIdentity ∧
    ∀ transportPlan, (demoReport transportPlan client server).semanticTraceEquivalent = true ∧
      (demoReport transportPlan client server).outcomeEquivalent = true

/-- The verifier accepts exactly the two sides of one session, unless it is given two completed
reports of one plan and one trace that are not a client's and a server's. -/
theorem verifies_one_session_iff (crates : Crates) (injective : Function.Injective crates.toVec)
    (first second : Conversation) (client server : ExecutionReport)
    (produced : client.Produced crates first) (peerProduced : server.Produced crates second)
    (distinguished : Distinguished crates first second client server) :
    ((∃ session, verifySessionReports client server = .ok session) ↔
        OneSession crates first second client server) ↔
      (client.role = "client" ∧ server.role = "server") ∨
        client.planIdentity ≠ server.planIdentity ∨
        client.semanticTrace ≠ server.semanticTrace ∨ client.completed = false := by
  have verified := produced.accounts.verified_iff injective distinguished peerProduced.accounts
  have oneSession : OneSession crates first second client server ↔
      (client.role = "client" ∧ server.role = "server") ∧
        client.planIdentity = server.planIdentity ∧
        client.semanticTrace = server.semanticTrace ∧ client.completed = true := by
    rw [OneSession, produced.byClient_iff, peerProduced.byServer_iff, and_assoc]
    apply and_congr_right
    intro _
    apply and_congr_right
    intro _
    apply and_congr_right
    intro plans
    simp only [produced.accounts.equivalent_iff injective distinguished peerProduced.accounts plans,
      forall_const]
  rw [verified, oneSession]
  by_cases sides : client.role = "client" ∧ server.role = "server"
  · simp [sides]
  · simp only [sides, false_and, iff_false, false_or, not_and, Bool.not_eq_true]
    tauto

end ExecutionReport

/-! ## A session without tokens -/

namespace Generate

open Recording (clientBody serverBody)

/-- What both roles record when the server has no token to give. -/
def emptyTrace : List Frame := finished [promptFrame "tell me"]

variable (crates) in
theorem producedByClient_empty :
    (reported crates .left "memory" [] emptyTrace).ProducedByClient crates .generate := by
  have created : EndpointMachine.fromPlan (Conversation.generate.preparedPlan crates) "client" =
      .ok (held crates .left "start" []).machine :=
    Conversation.fromPlan_preparedPlan_eq_ok_iff.mpr ⟨sides.hasRole_iff.mpr ⟨.left, rfl⟩, rfl⟩
  have path := ((path_client_prompt crates "memory" "tell me" none 2).trans
    (path_client_done crates "memory" 0 _)).trans (path_conclude .left "memory" [] _)
  have runs : runGenerateClientPlan crates (Conversation.generate.preparedPlan crates) "memory"
      "tell me" none 2 = Prod.fst <$>
        (clientBody crates "memory" "tell me" none 2).start (held crates .left "start" []) := by
    rw [runGenerateClientPlan, if_neg (by simp)]
    simp only [runRole, created]
    rfl
  refine ⟨_, "memory", "tell me", none, 2, ?events, compile crates, ?path⟩
  case path =>
    rw [runs]
    exact path.bind_left _

variable (crates) in
theorem producedByServer_empty :
    (reported crates .right "memory" [] emptyTrace).ProducedByServer crates .generate := by
  have created : EndpointMachine.fromPlan (Conversation.generate.preparedPlan crates) "server" =
      .ok (held crates .right "start" []).machine :=
    Conversation.fromPlan_preparedPlan_eq_ok_iff.mpr ⟨sides.hasRole_iff.mpr ⟨.right, rfl⟩, rfl⟩
  have path := ((path_server_prompt crates "memory" "tell me" 0 2).trans
    (path_server_done crates "memory" 0 _ (Nat.zero_le _))).trans
      (path_conclude .right "memory" [] _)
  have runs : runGenerateServerPlan crates (Conversation.generate.preparedPlan crates) "memory"
      0 2 = Prod.fst <$>
        (serverBody crates "memory" 0 2).start (held crates .right "start" []) := by
    rw [runGenerateServerPlan]
    simp only [runRole, created]
    rfl
  refine ⟨_, "memory", 0, 2, ?events, compile crates, ?path⟩
  case path =>
    rw [runs]
    exact path.bind_left _

end Generate

namespace ExecutionReport

open Generate (reported emptyTrace producedByClient_empty producedByServer_empty)

theorem distinguished_generate (crates : Crates) (side peer : TurnTaking.Side)
    (trace : List Frame) :
    Distinguished crates .generate .generate (reported crates side "memory" [] trace)
      (reported crates peer "memory" [] trace) :=
  ⟨fun _ => rfl, fun _ => rfl, fun _ => rfl⟩

theorem verifies_one_session_iff_generate :
    ((∃ session, verifySessionReports (reported .reference .left "memory" [] emptyTrace)
          (reported .reference .right "memory" [] emptyTrace) = .ok session) ↔
        OneSession .reference .generate .generate
          (reported .reference .left "memory" [] emptyTrace)
          (reported .reference .right "memory" [] emptyTrace)) := by
  apply (verifies_one_session_iff .reference Crates.reference_lossless.toVec_injective .generate
    .generate _ _ (.inl (producedByClient_empty _)) (.inr (producedByServer_empty _))
    (distinguished_generate _ _ _ _)).mpr
  exact .inl ⟨rfl, rfl⟩

/-- The report of one client passes for both sides of a session. -/
theorem verifies_client_twice :
    ¬ ∀ (crates : Crates), Function.Injective crates.toVec →
      ∀ (first second : Conversation) (client server : ExecutionReport),
        client.Produced crates first → server.Produced crates second →
        Distinguished crates first second client server →
        ((∃ session, verifySessionReports client server = .ok session) ↔
          OneSession crates first second client server) := by
  intro verifies
  have produced := producedByClient_empty .reference
  have accepts := verifies .reference Crates.reference_lossless.toVec_injective .generate .generate
    _ _ (.inl produced) (.inl produced) (distinguished_generate _ .left .left _)
  have accepted : ∃ session, verifySessionReports (reported .reference .left "memory" [] emptyTrace)
      (reported .reference .left "memory" [] emptyTrace) = .ok session :=
    exists_verifySessionReports_iff.mpr ⟨rfl, rfl, rfl, rfl, rfl, rfl, rfl, rfl⟩
  rcases accepts.mp accepted with ⟨_, server, _⟩
  have role := server.accounts.role_eq
  exact absurd role (by decide)

end ExecutionReport

end Colloq
