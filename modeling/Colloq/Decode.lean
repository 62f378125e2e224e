import Colloq.Plan
import Colloq.Serde

/-!
# Decoding conversations and plans

The derived deserializers of a conversation and of a plan artifact. The structs
deny unknown fields, the internally tagged states do not, and neither does a wire
transition, whose operation is flattened.
-/

namespace Colloq

open Checked (ensure)

namespace Serde

/-- The members of a struct without `deny_unknown_fields`: only a known field has to be
the only one of its name. -/
def readOpenStruct (names : List String) : Json → Except String (List (String × Json))
  | .object members => do
    ensure ((members.map Prod.fst).filter (· ∈ names)).Nodup "duplicate field"
    return members
  | .array items => do
    ensure (items.length ≤ names.length) "trailing characters"
    return names.zip items
  | _ => .error "invalid type, expected a struct"

/-- A struct with a flattened field is read from an object only. The members that it does not
name are left to the flattened field. -/
def readFlattened (names : List String) :
    Json → Except String (List (String × Json) × List (String × Json))
  | .object members => do
    ensure ((members.map Prod.fst).filter (· ∈ names)).Nodup "duplicate field"
    return members.partition fun (name, _) => name ∈ names
  | _ => .error "invalid type, expected a map"

def readBool : Json → Except String Bool
  | .bool value => .ok value
  | _ => .error "invalid type, expected a boolean"

section Containers

variable {α : Type} (read : Json → Except String α)

/-- A field with `#[serde(default)]`. -/
def readDefault (default : α) (members : List (String × Json)) (name : String) :
    Except String α :=
  match members.lookup name with
  | none => .ok default
  | some json => read json

/-- `Vec<_>` -/
def readList : Json → Except String (List α)
  | .array items => items.mapM read
  | _ => .error "invalid type, expected a sequence"

/-- The members of a map: a later duplicate overwrites an earlier one. -/
def readMembers (members : List (String × Json)) : Except String (StringMap α) := do
  let entries ← members.mapM fun (name, json) => do return (name, ← read json)
  return .ofList entries

/-- `BTreeMap<String, _>` -/
def readMap : Json → Except String (StringMap α)
  | .object members => readMembers read members
  | _ => .error "invalid type, expected a map"

end Containers

end Serde

open Serde

/-! ## Conversations -/

def Module.fromJson (json : Json) : Except String Module := do
  let members ← readStruct ["id", "semantic_version"] json
  return {
    id := ← readRequired readString members "id"
    semanticVersion := ← readOptional readString members "semantic_version" }

def Role.fromJson (json : Json) : Except String Role := do
  let members ← readStruct ["id", "placement", "capabilities"] json
  return {
    id := ← readRequired readString members "id"
    placement := ← readDefault (readList readString) [] members "placement"
    capabilities := ← readDefault (readList readString) [] members "capabilities" }

def TypeDefinition.fromJson (json : Json) : Except String TypeDefinition := do
  let (members, rest) ← readFlattened ["id"] json
  return {
    id := ← readRequired readString members "id"
    definition := ← readMembers readValue rest }

def FailureDefinition.fromJson (json : Json) : Except String FailureDefinition := do
  let members ← readStruct ["id", "description", "retryable"] json
  return {
    id := ← readRequired readString members "id"
    description := ← readOptional readString members "description"
    retryable := ← readDefault readBool false members "retryable" }

namespace GlobalState

/-- The fields of each variant. -/
def fields : String → List String
  | "send" => ["id", "from", "to", "message", "next", "deadline", "on_failure"]
  | "choice" => ["id", "chooser", "branches", "on_failure"]
  | "cancel" => ["id", "from", "to", "scope", "next", "on_failure"]
  | "end" => ["id"]
  | "fail" => ["id", "failure"]
  | _ => []

def fromJson (json : Json) : Except String GlobalState := do
  let (kind, content) ← readTagged "kind" json
  match kind with
  | "send" =>
    let members ← readOpenStruct (fields "send") content
    return .send (← readRequired readString members "id") (← readRequired readString members "from")
      (← readRequired readString members "to") (← readRequired readString members "message")
      (← readRequired readString members "next") (← readOptional readString members "deadline")
      (← readDefault (readMap readString) ∅ members "on_failure")
  | "choice" =>
    let members ← readOpenStruct (fields "choice") content
    return .choice (← readRequired readString members "id")
      (← readRequired readString members "chooser")
      (← readRequired (readMap readString) members "branches")
      (← readDefault (readMap readString) ∅ members "on_failure")
  | "cancel" =>
    let members ← readOpenStruct (fields "cancel") content
    return .cancel (← readRequired readString members "id")
      (← readRequired readString members "from") (← readRequired readString members "to")
      (← readRequired readString members "scope") (← readRequired readString members "next")
      (← readDefault (readMap readString) ∅ members "on_failure")
  | "end" =>
    let members ← readOpenStruct (fields "end") content
    return .end (← readRequired readString members "id")
  | "fail" =>
    let members ← readOpenStruct (fields "fail") content
    return .fail (← readRequired readString members "id")
      (← readRequired readString members "failure")
  | variant => .error s!"unknown variant `{variant}`"

end GlobalState

def Conversation.fromJson (json : Json) : Except String Conversation := do
  let members ← readStruct ["$schema", "colloq_conversation", "module", "roles", "types",
    "failures", "initial", "states", "annotations"] json
  return {
    schema := ← readOptional readString members "$schema"
    colloqConversation := ← readRequired readString members "colloq_conversation"
    module := ← readRequired Module.fromJson members "module"
    roles := ← readRequired (readList Role.fromJson) members "roles"
    types := ← readRequired (readList TypeDefinition.fromJson) members "types"
    failures := ← readDefault (readList FailureDefinition.fromJson) [] members "failures"
    initial := ← readRequired readString members "initial"
    states := ← readRequired (readList GlobalState.fromJson) members "states"
    annotations := ← readDefault (readMap readValue) ∅ members "annotations" }

/-! ## Plan artifacts -/

namespace EndpointState

/-- The fields of each variant. -/
def fields : String → List String
  | "send" => ["id", "to", "message", "next", "deadline", "on_failure"]
  | "receive" => ["id", "from", "message", "next", "deadline", "on_failure"]
  | "select" => ["id", "branches", "on_failure"]
  | "branch" => ["id", "from", "branches", "on_failure"]
  | "send_cancel" => ["id", "to", "scope", "next", "on_failure"]
  | "receive_cancel" => ["id", "from", "scope", "next", "on_failure"]
  | "end" => ["id"]
  | "fail" => ["id", "failure"]
  | _ => []

def fromJson (json : Json) : Except String EndpointState := do
  let (op, content) ← readTagged "op" json
  match op with
  | "send" =>
    let members ← readOpenStruct (fields "send") content
    return .send (← readRequired readString members "id") (← readRequired readString members "to")
      (← readRequired readString members "message") (← readRequired readString members "next")
      (← readOptional readString members "deadline")
      (← readDefault (readMap readString) ∅ members "on_failure")
  | "receive" =>
    let members ← readOpenStruct (fields "receive") content
    return .receive (← readRequired readString members "id")
      (← readRequired readString members "from") (← readRequired readString members "message")
      (← readRequired readString members "next") (← readOptional readString members "deadline")
      (← readDefault (readMap readString) ∅ members "on_failure")
  | "select" =>
    let members ← readOpenStruct (fields "select") content
    return .select (← readRequired readString members "id")
      (← readRequired (readMap readString) members "branches")
      (← readDefault (readMap readString) ∅ members "on_failure")
  | "branch" =>
    let members ← readOpenStruct (fields "branch") content
    return .branch (← readRequired readString members "id")
      (← readRequired readString members "from")
      (← readRequired (readMap readString) members "branches")
      (← readDefault (readMap readString) ∅ members "on_failure")
  | "send_cancel" =>
    let members ← readOpenStruct (fields "send_cancel") content
    return .sendCancel (← readRequired readString members "id")
      (← readRequired readString members "to") (← readRequired readString members "scope")
      (← readRequired readString members "next")
      (← readDefault (readMap readString) ∅ members "on_failure")
  | "receive_cancel" =>
    let members ← readOpenStruct (fields "receive_cancel") content
    return .receiveCancel (← readRequired readString members "id")
      (← readRequired readString members "from") (← readRequired readString members "scope")
      (← readRequired readString members "next")
      (← readDefault (readMap readString) ∅ members "on_failure")
  | "end" =>
    let members ← readOpenStruct (fields "end") content
    return .end (← readRequired readString members "id")
  | "fail" =>
    let members ← readOpenStruct (fields "fail") content
    return .fail (← readRequired readString members "id")
      (← readRequired readString members "failure")
  | variant => .error s!"unknown variant `{variant}`"

end EndpointState

def Endpoint.fromJson (json : Json) : Except String Endpoint := do
  let members ← readStruct ["colloq_endpoint", "conversation", "role", "initial", "states"] json
  return {
    colloqEndpoint := ← readRequired readString members "colloq_endpoint"
    conversation := ← readRequired readString members "conversation"
    role := ← readRequired readString members "role"
    initial := ← readRequired readString members "initial"
    states := ← readRequired (readList EndpointState.fromJson) members "states" }

namespace WireOperation

/-- The fields of each variant. -/
def fieldNames : String → List String
  | "data" => ["from", "to", "message"]
  | "select" => ["by", "label"]
  | "cancel" => ["from", "to", "scope"]
  | _ => []

def fromJson (json : Json) : Except String WireOperation := do
  let (op, content) ← readTagged "op" json
  match op with
  | "data" =>
    let members ← readOpenStruct (fieldNames "data") content
    return .data (← readRequired readString members "from") (← readRequired readString members "to")
      (← readRequired readString members "message")
  | "select" =>
    let members ← readOpenStruct (fieldNames "select") content
    return .select (← readRequired readString members "by")
      (← readRequired readString members "label")
  | "cancel" =>
    let members ← readOpenStruct (fieldNames "cancel") content
    return .cancel (← readRequired readString members "from")
      (← readRequired readString members "to") (← readRequired readString members "scope")
  | variant => .error s!"unknown variant `{variant}`"

end WireOperation

def WireTransition.fromJson (json : Json) : Except String WireTransition := do
  let (members, rest) ← readFlattened ["id", "state"] json
  return {
    id := ← readRequired readU16 members "id"
    state := ← readRequired readString members "state"
    operation := ← WireOperation.fromJson (.object rest) }

def CompactWirePlan.fromJson (json : Json) : Except String CompactWirePlan := do
  let members ← readStruct ["encoding", "transitions"] json
  return {
    encoding := ← readRequired readString members "encoding"
    transitions := ← readRequired (readList WireTransition.fromJson) members "transitions" }

namespace ColloqPlan

def fromJson (json : Json) : Except String ColloqPlan := do
  let members ← readStruct ["colloq_plan", "conversation", "conversation_identity",
    "plan_identity", "endpoints", "wire"] json
  return {
    colloqPlan := ← readRequired readString members "colloq_plan"
    conversation := ← readRequired readString members "conversation"
    conversationIdentity := ← readRequired readString members "conversation_identity"
    planIdentity := ← readRequired readString members "plan_identity"
    endpoints := ← readRequired (readList Endpoint.fromJson) members "endpoints"
    wire := ← readOptional CompactWirePlan.fromJson members "wire" }

/-- The wire dictionary is skipped if there is none. -/
def toJson (plan : ColloqPlan) : Json := .object
  ([("colloq_plan", .string plan.colloqPlan), ("conversation", .string plan.conversation),
    ("conversation_identity", .string plan.conversationIdentity),
    ("plan_identity", .string plan.planIdentity),
    ("endpoints", .array (plan.endpoints.map Endpoint.toJson))] ++
    (plan.wire.map fun wire => ("wire", wire.toJson)).toList)

end ColloqPlan

end Colloq
