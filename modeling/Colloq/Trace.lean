import Colloq.Validate

/-!
# Frames and the global trace checker

`verifyTrace` interprets a list of frames on the global graph. The result is
`none` where the source would panic on a missing state.
-/

namespace Colloq

inductive Frame where
  | data (sender receiver message : String) (payload : Option Value)
  | select (chooser label : String)
  | cancel (sender receiver scope : String)
  | fault (observer failure : String)
deriving DecidableEq

structure TraceReport where
  steps : ℕ
  finalState : String
  complete : Bool
  successful : Bool
  failure : Option String
deriving DecidableEq

structure TraceError where
  step : ℕ
  state : String
  expected : String
  received : String
deriving DecidableEq

/-- The two error types that `verify_trace` boxes. -/
inductive VerifyTraceError where
  | validation (errors : ValidationErrors)
  | trace (error : TraceError)
deriving DecidableEq

def describeFrame : Frame → String
  | .data sender receiver message _ => s!"data {sender} -> {receiver}: {message}"
  | .select chooser label => s!"select by {chooser}: {label}"
  | .cancel sender receiver scope => s!"cancel {sender} -> {receiver}: {scope}"
  | .fault observer failure => s!"fault observed by {observer}: {failure}"

/-- The arms of the `match` in `verify_trace`: the state after the frame, if it is allowed. -/
def GlobalState.advance (roles : StringSet) : GlobalState → Frame → Option String
  | state, .fault observer failure =>
      if observer ∈ roles then state.failureTarget failure else none
  | .send _ sender receiver message next .., .data actualSender actualReceiver actualMessage _ =>
      if sender = actualSender ∧ receiver = actualReceiver ∧ message = actualMessage then
        some next
      else none
  | .choice _ chooser branches _, .select actualChooser label =>
      if chooser = actualChooser then branches[label]? else none
  | .cancel _ sender receiver scope next _, .cancel actualSender actualReceiver actualScope =>
      if sender = actualSender ∧ receiver = actualReceiver ∧ scope = actualScope then some next
      else none
  | _, _ => none

def Conversation.roleSet (conversation : Conversation) : StringSet :=
  .ofList (conversation.roles.map Role.id)

/-- The loop over the frames; the result is the last current state. -/
def traceFrom (states : StringMap GlobalState) (roles : StringSet) :
    ℕ → String → List Frame → Option (Except TraceError String)
  | _, current, [] => some (.ok current)
  | step, current, frame :: frames =>
    match states[current]? with
    | none => none
    | some state =>
      match state.advance roles frame with
      | some next => traceFrom states roles (step + 1) next frames
      | none => some (.error
          { step, state := current, expected := state.expectedFrame,
            received := describeFrame frame })

def verifyTrace (conversation : Conversation) (frames : List Frame) :
    Option (Except VerifyTraceError TraceReport) :=
  match validate conversation with
  | .error errors => some (.error (.validation errors))
  | .ok () =>
    match traceFrom conversation.stateMap conversation.roleSet 0 conversation.initial frames with
    | none => none
    | some (.error error) => some (.error (.trace error))
    | some (.ok current) =>
      match conversation.stateMap[current]? with
      | none => none
      | some terminal => some (.ok
          { steps := frames.length
            finalState := current
            complete := terminal.isTerminal
            successful := match terminal with
              | .end _ => true
              | _ => false
            failure := match terminal with
              | .fail _ failure => some failure
              | _ => none })

end Colloq
