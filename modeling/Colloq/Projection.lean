import Colloq.Validate

/-!
# Projected endpoints

Projection turns every global state into the local action of one role, under
the same state id and with the same failure edges.
-/

namespace Colloq

/-- `ENDPOINT_FORMAT` -/
def endpointFormat : String := "0.1.0"

inductive EndpointState where
  | send (id receiver message next : String) (deadline : Option String)
      (onFailure : StringMap String)
  | receive (id sender message next : String) (deadline : Option String)
      (onFailure : StringMap String)
  | select (id : String) (branches : StringMap String) (onFailure : StringMap String)
  | branch (id sender : String) (branches : StringMap String) (onFailure : StringMap String)
  | sendCancel (id receiver scope next : String) (onFailure : StringMap String)
  | receiveCancel (id sender scope next : String) (onFailure : StringMap String)
  | «end» (id : String)
  | fail (id failure : String)
deriving DecidableEq

structure Endpoint where
  colloqEndpoint : String
  conversation : String
  role : String
  initial : String
  states : List EndpointState
deriving DecidableEq

namespace EndpointState

def id : EndpointState → String
  | .send id .. | .receive id .. | .select id .. | .branch id .. | .sendCancel id ..
  | .receiveCancel id .. | .end id | .fail id _ => id

def failureTarget : EndpointState → String → Option String
  | .send _ _ _ _ _ onFailure, failure | .receive _ _ _ _ _ onFailure, failure
  | .select _ _ onFailure, failure | .branch _ _ _ onFailure, failure
  | .sendCancel _ _ _ _ onFailure, failure | .receiveCancel _ _ _ _ onFailure, failure =>
      onFailure[failure]?
  | .end _, _ | .fail .., _ => none

/-- Internally tagged by `op`. -/
def toJson : EndpointState → Json
  | .send id receiver message next deadline onFailure => .object
      [("op", .string "send"), ("id", .string id), ("to", .string receiver),
        ("message", .string message), ("next", .string next),
        ("deadline", .ofOption deadline), ("on_failure", .ofStringMap onFailure)]
  | .receive id sender message next deadline onFailure => .object
      [("op", .string "receive"), ("id", .string id), ("from", .string sender),
        ("message", .string message), ("next", .string next),
        ("deadline", .ofOption deadline), ("on_failure", .ofStringMap onFailure)]
  | .select id branches onFailure => .object
      [("op", .string "select"), ("id", .string id), ("branches", .ofStringMap branches),
        ("on_failure", .ofStringMap onFailure)]
  | .branch id sender branches onFailure => .object
      [("op", .string "branch"), ("id", .string id), ("from", .string sender),
        ("branches", .ofStringMap branches), ("on_failure", .ofStringMap onFailure)]
  | .sendCancel id receiver scope next onFailure => .object
      [("op", .string "send_cancel"), ("id", .string id), ("to", .string receiver),
        ("scope", .string scope), ("next", .string next), ("on_failure", .ofStringMap onFailure)]
  | .receiveCancel id sender scope next onFailure => .object
      [("op", .string "receive_cancel"), ("id", .string id), ("from", .string sender),
        ("scope", .string scope), ("next", .string next), ("on_failure", .ofStringMap onFailure)]
  | .end id => .object [("op", .string "end"), ("id", .string id)]
  | .fail id failure => .object
      [("op", .string "fail"), ("id", .string id), ("failure", .string failure)]

end EndpointState

def Endpoint.toJson (endpoint : Endpoint) : Json := .object
  [("colloq_endpoint", .string endpoint.colloqEndpoint),
    ("conversation", .string endpoint.conversation), ("role", .string endpoint.role),
    ("initial", .string endpoint.initial),
    ("states", .array (endpoint.states.map EndpointState.toJson))]

def projectState (state : GlobalState) (role : String) : EndpointState :=
  match state with
  | .send id sender receiver message next deadline onFailure =>
    if sender = role then .send id receiver message next deadline onFailure
    else .receive id sender message next deadline onFailure
  | .choice id chooser branches onFailure =>
    if chooser = role then .select id branches onFailure
    else .branch id chooser branches onFailure
  | .cancel id sender receiver scope next onFailure =>
    if sender = role then .sendCancel id receiver scope next onFailure
    else .receiveCancel id sender scope next onFailure
  | .end id => .end id
  | .fail id failure => .fail id failure

/-- The loop body of `project_validated`. -/
def projectRole (conversation : Conversation) (role : String) : Endpoint where
  colloqEndpoint := endpointFormat
  conversation := conversation.module.id
  role := role
  initial := conversation.initial
  states := conversation.states.map fun state => projectState state role

def projectValidated (conversation : Conversation) : List Endpoint :=
  conversation.roles.map fun role => projectRole conversation role.id

def project (conversation : Conversation) : Except ValidationErrors (List Endpoint) := do
  validate conversation
  return projectValidated conversation

@[simp]
theorem id_projectState (state : GlobalState) (role : String) :
    (projectState state role).id = state.id := by
  cases state <;> simp only [projectState] <;> (try split_ifs) <;> rfl

@[simp]
theorem failureTarget_projectState (state : GlobalState) (role failure : String) :
    (projectState state role).failureTarget failure = state.failureTarget failure := by
  cases state <;> simp only [projectState] <;> (try split_ifs) <;> rfl

end Colloq
