import Colloq.Crates
import Colloq.Projection
import Colloq.Library.Checked

/-!
# Compiled plans

`compile` validates a conversation, projects it, derives the compact wire
dictionary and then runs the artifact verifier on its own output. `verify` is
also what a deserialized plan has to pass before it is used.
-/

namespace Colloq

open Checked (ensure forEach)

/-- `PLAN_FORMAT` -/
def planFormat : String := "0.1.0"

/-- `COMPACT_WIRE_FORMAT` -/
def compactWireFormat : String := "compact-json-v0"

/-- `serde_json` errors are carried as their text. -/
inductive PlanError where
  | invalidConversation (errors : ValidationErrors)
  | codec (error : String)
  | version (actual expected : String)
  | identityMismatch (declared calculated : String)
  | invalid (message : String)
deriving DecidableEq

inductive WireOperation where
  | data (sender receiver message : String)
  | select (chooser label : String)
  | cancel (sender receiver scope : String)
deriving DecidableEq

namespace WireOperation

def variant : WireOperation → ℕ
  | .data .. => 0
  | .select .. => 1
  | .cancel .. => 2

def fields : WireOperation → List String
  | .data sender receiver message => [sender, receiver, message]
  | .select chooser label => [chooser, label]
  | .cancel sender receiver scope => [sender, receiver, scope]

/-- The derived order: first the variants as declared, then the fields in turn. -/
instance : Ord WireOperation := ⟨compareLex (compareOn variant) (compareOn fields)⟩

instance : Std.TransOrd WireOperation :=
  inferInstanceAs (Std.TransCmp (compareLex (compareOn variant) (compareOn fields)))

theorem eq_of_variant_of_fields {left right : WireOperation}
    (variants : left.variant = right.variant) (fields : left.fields = right.fields) :
    left = right := by
  cases left <;> cases right <;> simp_all [WireOperation.variant, WireOperation.fields]

instance : Std.LawfulEqOrd WireOperation where
  eq_of_compare {left right} same := by
    rcases Ordering.then_eq_eq.mp same with ⟨variants, fields⟩
    exact eq_of_variant_of_fields (Std.LawfulEqOrd.eq_of_compare variants)
      (Std.LawfulEqOrd.eq_of_compare fields)

/-- Internally tagged by `op`. -/
def members : WireOperation → List (String × Json)
  | .data sender receiver message =>
      [("op", .string "data"), ("from", .string sender), ("to", .string receiver),
        ("message", .string message)]
  | .select chooser label =>
      [("op", .string "select"), ("by", .string chooser), ("label", .string label)]
  | .cancel sender receiver scope =>
      [("op", .string "cancel"), ("from", .string sender), ("to", .string receiver),
        ("scope", .string scope)]

end WireOperation

structure WireTransition where
  id : UInt16
  state : String
  operation : WireOperation
deriving DecidableEq

structure CompactWirePlan where
  encoding : String
  transitions : List WireTransition
deriving DecidableEq

structure ColloqPlan where
  colloqPlan : String
  conversation : String
  conversationIdentity : String
  planIdentity : String
  endpoints : List Endpoint
  wire : Option CompactWirePlan
deriving DecidableEq

structure PreparedPlan where
  conversation : String
  conversationIdentity : String
  planIdentity : String
  endpoints : List Endpoint
  wire : CompactWirePlan
deriving DecidableEq

/-- The operation is flattened into the object that holds the id. -/
def WireTransition.toJson (transition : WireTransition) : Json := .object
  (("id", .number (.posInt transition.id.toUInt64)) :: ("state", .string transition.state) ::
    transition.operation.members)

def CompactWirePlan.toJson (wire : CompactWirePlan) : Json := .object
  [("encoding", .string wire.encoding),
    ("transitions", .array (wire.transitions.map WireTransition.toJson))]

/-! ## The compact wire dictionary -/

/-- What `derive_wire_plan` inserts for one state of the endpoint of a role. -/
def EndpointState.operations (role : String) : EndpointState → List WireOperation
  | .send _ receiver message .. => [.data role receiver message]
  | .receive _ sender message .. => [.data sender role message]
  | .select _ branches _ => branches.keys.map (.select role)
  | .branch _ sender branches _ => branches.keys.map (.select sender)
  | .sendCancel _ receiver scope .. => [.cancel role receiver scope]
  | .receiveCancel _ sender scope .. => [.cancel sender role scope]
  | .end _ | .fail .. => []

def Endpoint.transitions (endpoint : Endpoint) : List (String × WireOperation) :=
  endpoint.states.flatMap fun state =>
    (state.operations endpoint.role).map fun operation => (state.id, operation)

/-- By state id, then by operation. -/
def transitionCompare : String × WireOperation → String × WireOperation → Ordering :=
  compareLex (compareOn Prod.fst) (compareOn Prod.snd)

instance : Std.TransCmp transitionCompare :=
  inferInstanceAs (Std.TransCmp (compareLex (compareOn Prod.fst) (compareOn Prod.snd)))

instance : Std.LawfulEqCmp transitionCompare where
  eq_of_compare {left right} same := by
    rcases Ordering.then_eq_eq.mp same with ⟨states, operations⟩
    exact Prod.ext (Std.LawfulEqOrd.eq_of_compare states)
      (Std.LawfulEqOrd.eq_of_compare operations)

/-- `BTreeSet<(String, WireOperation)>` -/
abbrev TransitionSet := Std.ExtTreeSet (String × WireOperation) transitionCompare

def collectTransitions (endpoints : List Endpoint) : TransitionSet :=
  .ofList (endpoints.flatMap Endpoint.transitions) transitionCompare

/-- Dense ids, one above the index; `u16::try_from` fails beyond 65535. -/
def numberTransitions : ℕ → List (String × WireOperation) →
    Except PlanError (List WireTransition)
  | _, [] => .ok []
  | index, (state, operation) :: rest => do
    ensure (index + 1 < UInt16.size)
      (.invalid "compact wire supports at most 65535 semantic transitions")
    let transitions ← numberTransitions (index + 1) rest
    return { id := .ofNat (index + 1), state, operation } :: transitions

def deriveWirePlan (endpoints : List Endpoint) : Except PlanError CompactWirePlan := do
  let transitions ← numberTransitions 0 (collectTransitions endpoints).toList
  return { encoding := compactWireFormat, transitions }

/-! ## Identities and the verifier -/

def conversationIdentityValidated (crates : Crates) (conversation : Conversation) : String :=
  sha256Identity crates
    (crates.toVec { conversation with schema := none, annotations := ∅ }.toJson)

def endpointSuccessors : EndpointState → List String
  | .send _ _ _ next _ onFailure | .receive _ _ _ next _ onFailure
  | .sendCancel _ _ _ next onFailure | .receiveCancel _ _ _ next onFailure =>
      next :: onFailure.values
  | .select _ branches onFailure | .branch _ _ branches onFailure =>
      branches.values ++ onFailure.values
  | .end _ | .fail .. => []

def endpointPeer : EndpointState → Option String
  | .send _ receiver .. | .sendCancel _ receiver .. => some receiver
  | .receive _ sender .. | .branch _ sender .. | .receiveCancel _ sender .. => some sender
  | .select .. | .end _ | .fail .. => none

/-- The body of the last loop of `verify_endpoint`. -/
def verifyEndpointState (role : String) (stateIds roles : StringSet) (state : EndpointState) :
    Except PlanError Unit := do
  ensure (validId state.id = true)
    (.invalid s!"endpoint {role} contains invalid state ID {state.id}")
  forEach (endpointSuccessors state) fun target =>
    ensure (target ∈ stateIds)
      (.invalid s!"endpoint {role} state {state.id} targets unknown state {target}")
  match endpointPeer state with
  | some peer =>
    ensure (peer ∈ roles)
      (.invalid s!"endpoint {role} state {state.id} references unknown role {peer}")
  | none => .ok ()

def verifyEndpoint (endpoint : Endpoint) (conversation : String) (roles : StringSet) :
    Except PlanError Unit := do
  let role := endpoint.role
  ensure (endpoint.colloqEndpoint = endpointFormat)
    (.invalid s!"endpoint {role} uses unsupported format {endpoint.colloqEndpoint}")
  ensure (validId role = true ∧ validId endpoint.initial = true)
    (.invalid s!"endpoint {role} has an invalid role or initial state ID")
  ensure (endpoint.conversation = conversation)
    (.invalid
      s!"endpoint {role} names conversation {endpoint.conversation}; expected {conversation}")
  ensure (endpoint.states ≠ []) (.invalid s!"endpoint {role} has no states")
  let stateIds : StringSet := .ofList (endpoint.states.map EndpointState.id)
  ensure (stateIds.size = endpoint.states.length)
    (.invalid s!"endpoint {role} contains duplicate state IDs")
  ensure (endpoint.initial ∈ stateIds)
    (.invalid s!"endpoint {role} initial state {endpoint.initial} does not exist")
  forEach endpoint.states (verifyEndpointState role stateIds roles)

namespace ColloqPlan

/-- The document of `SemanticPlan`: everything but the plan identity itself. -/
def semanticJson (plan : ColloqPlan) : Json := .object
  ([("colloq_plan", .string plan.colloqPlan), ("conversation", .string plan.conversation),
    ("conversation_identity", .string plan.conversationIdentity),
    ("endpoints", .array (plan.endpoints.map Endpoint.toJson))] ++
  match plan.wire with
  | some wire => [("wire", wire.toJson)]
  | none => [])

def calculateIdentity (crates : Crates) (plan : ColloqPlan) : String :=
  sha256Identity crates (crates.toVec plan.semanticJson)

def verify (crates : Crates) (plan : ColloqPlan) : Except PlanError Unit := do
  ensure (plan.colloqPlan = planFormat) (.version plan.colloqPlan planFormat)
  ensure (validId plan.conversation = true ∧ validSha256 plan.conversationIdentity = true)
    (.invalid "conversation or conversation_identity has an invalid representation")
  ensure (plan.endpoints.length = 2)
    (.invalid "Colloq Plan v0 requires exactly two endpoints")
  let roles : StringSet := .ofList (plan.endpoints.map Endpoint.role)
  ensure (roles.size = plan.endpoints.length) (.invalid "endpoint roles must be unique")
  forEach plan.endpoints fun endpoint => verifyEndpoint endpoint plan.conversation roles
  let calculated := plan.calculateIdentity crates
  ensure (plan.planIdentity = calculated) (.identityMismatch plan.planIdentity calculated)
  match plan.wire with
  | some wire =>
    let expected ← deriveWirePlan plan.endpoints
    ensure (wire = expected)
      (.invalid "compact wire transition table is not the deterministic projection")
  | none => .ok ()

/-- `endpoints.sort_by(|left, right| left.role.cmp(&right.role))`, a stable sort. -/
def sortEndpoints (endpoints : List Endpoint) : List Endpoint :=
  endpoints.insertionSort fun left right => left.role ≤ right.role

def compile (crates : Crates) (conversation : Conversation) : Except PlanError ColloqPlan := do
  (validate conversation).mapError .invalidConversation
  let conversationIdentity := conversationIdentityValidated crates conversation
  let endpoints := sortEndpoints (projectValidated conversation)
  let wire ← deriveWirePlan endpoints
  let plan : ColloqPlan :=
    { colloqPlan := planFormat, conversation := conversation.module.id, conversationIdentity,
      planIdentity := "", endpoints, wire := some wire }
  let plan := { plan with planIdentity := plan.calculateIdentity crates }
  plan.verify crates
  return plan

def prepared (plan : ColloqPlan) : Except PlanError PreparedPlan := do
  let wire ← match plan.wire with
    | some wire => .ok wire
    | none => deriveWirePlan plan.endpoints
  return { conversation := plan.conversation, conversationIdentity := plan.conversationIdentity,
           planIdentity := plan.planIdentity, endpoints := plan.endpoints, wire }

def prepare (crates : Crates) (plan : ColloqPlan) : Except PlanError PreparedPlan := do
  plan.verify crates
  plan.prepared

end ColloqPlan

namespace PreparedPlan

def compile (crates : Crates) (conversation : Conversation) : Except PlanError PreparedPlan := do
  let plan ← ColloqPlan.compile crates conversation
  plan.prepared

def endpoint (plan : PreparedPlan) (role : String) : Option Endpoint :=
  plan.endpoints.find? fun endpoint => endpoint.role == role

end PreparedPlan

end Colloq
