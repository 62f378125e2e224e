import Colloq.Json

/-!
# Conversations

The data model of a Colloq Conversation v0: two roles, message types, declared
failures and a graph of global states. The `toJson` functions follow the derived
serializers, so they fix the documents from which identities are computed.
-/

namespace Colloq

/-- `CONVERSATION_FORMAT` -/
def conversationFormat : String := "0.1.0"

structure Module where
  id : String
  semanticVersion : Option String := none
deriving DecidableEq

structure Role where
  id : String
  placement : List String := []
  capabilities : List String := []
deriving DecidableEq

/-- The definition is flattened into the object that holds the id. -/
structure TypeDefinition where
  id : String
  definition : StringMap Value
deriving DecidableEq

structure FailureDefinition where
  id : String
  description : Option String := none
  retryable : Bool := false
deriving DecidableEq

/-- The `from` and `to` roles of the source are called sender and receiver here. -/
inductive GlobalState where
  | send (id sender receiver message next : String) (deadline : Option String)
      (onFailure : StringMap String)
  | choice (id chooser : String) (branches : StringMap String) (onFailure : StringMap String)
  | cancel (id sender receiver scope next : String) (onFailure : StringMap String)
  | «end» (id : String)
  | fail (id failure : String)
deriving DecidableEq

structure Conversation where
  schema : Option String := none
  colloqConversation : String
  module : Module
  roles : List Role
  types : List TypeDefinition
  failures : List FailureDefinition := []
  initial : String
  states : List GlobalState
  annotations : StringMap Value := ∅
deriving DecidableEq

namespace GlobalState

def id : GlobalState → String
  | .send id .. | .choice id .. | .cancel id .. | .end id | .fail id _ => id

def successors : GlobalState → List String
  | .send _ _ _ _ next _ onFailure | .cancel _ _ _ _ next onFailure => next :: onFailure.values
  | .choice _ _ branches onFailure => branches.values ++ onFailure.values
  | .end _ | .fail .. => []

def failureTarget : GlobalState → String → Option String
  | .send _ _ _ _ _ _ onFailure, failure | .choice _ _ _ onFailure, failure
  | .cancel _ _ _ _ _ onFailure, failure => onFailure[failure]?
  | .end _, _ | .fail .., _ => none

def expectedFrame : GlobalState → String
  | .send _ sender receiver message .. => s!"data {sender} -> {receiver}: {message}"
  | .choice _ chooser branches _ =>
      let labels := " | ".intercalate branches.keys
      s!"select by {chooser}: {labels}"
  | .cancel _ sender receiver scope .. => s!"cancel {sender} -> {receiver}: {scope}"
  | .end _ => "end of conversation"
  | .fail _ failure => s!"terminal failure {failure}"

/-- `matches!(state, GlobalState::End { .. } | GlobalState::Fail { .. })` -/
def isTerminal : GlobalState → Bool
  | .end _ | .fail .. => true
  | _ => false

/-- Internally tagged by `kind`. -/
def toJson : GlobalState → Json
  | .send id sender receiver message next deadline onFailure => .object
      [("kind", .string "send"), ("id", .string id), ("from", .string sender),
        ("to", .string receiver), ("message", .string message), ("next", .string next),
        ("deadline", .ofOption deadline), ("on_failure", .ofStringMap onFailure)]
  | .choice id chooser branches onFailure => .object
      [("kind", .string "choice"), ("id", .string id), ("chooser", .string chooser),
        ("branches", .ofStringMap branches), ("on_failure", .ofStringMap onFailure)]
  | .cancel id sender receiver scope next onFailure => .object
      [("kind", .string "cancel"), ("id", .string id), ("from", .string sender),
        ("to", .string receiver), ("scope", .string scope), ("next", .string next),
        ("on_failure", .ofStringMap onFailure)]
  | .end id => .object [("kind", .string "end"), ("id", .string id)]
  | .fail id failure => .object
      [("kind", .string "fail"), ("id", .string id), ("failure", .string failure)]

end GlobalState

/-- `states.iter().map(|state| (state.id(), state)).collect::<BTreeMap<_, _>>()` -/
def Conversation.stateMap (conversation : Conversation) : StringMap GlobalState :=
  .ofList (conversation.states.map fun state => (state.id, state))

def Module.toJson (module : Module) : Json := .object
  [("id", .string module.id), ("semantic_version", .ofOption module.semanticVersion)]

def Role.toJson (role : Role) : Json := .object
  [("id", .string role.id), ("placement", .ofStrings role.placement),
    ("capabilities", .ofStrings role.capabilities)]

def TypeDefinition.toJson (type : TypeDefinition) : Json := .object
  (("id", .string type.id) :: Value.members type.definition)

def FailureDefinition.toJson (failure : FailureDefinition) : Json := .object
  [("id", .string failure.id), ("description", .ofOption failure.description),
    ("retryable", .bool failure.retryable)]

def Conversation.toJson (conversation : Conversation) : Json := .object
  [("$schema", .ofOption conversation.schema),
    ("colloq_conversation", .string conversation.colloqConversation),
    ("module", conversation.module.toJson),
    ("roles", .array (conversation.roles.map Role.toJson)),
    ("types", .array (conversation.types.map TypeDefinition.toJson)),
    ("failures", .array (conversation.failures.map FailureDefinition.toJson)),
    ("initial", .string conversation.initial),
    ("states", .array (conversation.states.map GlobalState.toJson)),
    ("annotations", .object (Value.members conversation.annotations))]

end Colloq
