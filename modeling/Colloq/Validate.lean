import Colloq.Conversation
import Colloq.Library.GraphSearch

/-!
# The conversation checker

`validate` collects diagnostics from about twenty independent checks and looks
at reachability only when none of them complained. Each check returns the
diagnostics it would push, in the order in which the source pushes them.
-/

namespace Colloq

structure Diagnostic where
  code : String
  path : String
  message : String
deriving DecidableEq

structure ValidationErrors where
  diagnostics : List Diagnostic
deriving DecidableEq

/-- The loop of `unique_ids`; `seen` is the set it returns. -/
def uniqueIdsFrom (path kind : String) : ℕ → StringSet → List String → StringSet × List Diagnostic
  | _, seen, [] => (seen, [])
  | index, seen, id :: ids =>
    if id = "" then
      let (seen, diagnostics) := uniqueIdsFrom path kind (index + 1) seen ids
      (seen, ⟨"CLQ0011", s!"{path}[{index}].id", s!"{kind} id cannot be empty"⟩ :: diagnostics)
    else if id ∈ seen then
      let (seen, diagnostics) := uniqueIdsFrom path kind (index + 1) seen ids
      (seen, ⟨"CLQ0012", s!"{path}[{index}].id", s!"duplicate {kind} id {id}"⟩ :: diagnostics)
    else
      uniqueIdsFrom path kind (index + 1) (seen.insert id) ids

def uniqueIds (ids : List String) (path kind : String) : StringSet × List Diagnostic :=
  uniqueIdsFrom path kind 0 ∅ ids

/-- A state with a repeated id overwrites the earlier entry of the map. -/
def collectStatesFrom : ℕ → StringMap GlobalState → List GlobalState →
    StringMap GlobalState × List Diagnostic
  | _, states, [] => (states, [])
  | index, states, state :: rest =>
    let (collected, diagnostics) :=
      collectStatesFrom (index + 1) (states.insert state.id state) rest
    if state.id ∈ states then
      (collected, ⟨"CLQ0004", s!"$.states[{index}].id", s!"duplicate state id {state.id}"⟩ ::
        diagnostics)
    else
      (collected, diagnostics)

def collectStates (states : List GlobalState) : StringMap GlobalState × List Diagnostic :=
  collectStatesFrom 0 ∅ states

def validateRoles (index : ℕ) (sender receiver : String) (roles : StringSet) : List Diagnostic :=
  (if sender ∈ roles then [] else
    [⟨"CLQ0013", s!"$.states[{index}].from", s!"unknown sender role {sender}"⟩]) ++
  (if receiver ∈ roles then [] else
    [⟨"CLQ0014", s!"$.states[{index}].to", s!"unknown receiver role {receiver}"⟩]) ++
  (if sender = receiver then
    [⟨"CLQ0015", s!"$.states[{index}]", "sender and receiver must be different roles"⟩] else [])

def validateTarget (index : ℕ) (edge target : String) (states : StringMap GlobalState) :
    List Diagnostic :=
  if target ∈ states then [] else
    [⟨"CLQ0016", s!"$.states[{index}].{edge}", s!"target state {target} does not exist"⟩]

def validateFailureEdge (index : ℕ) (failure target : String) (failures : StringSet)
    (states : StringMap GlobalState) : List Diagnostic :=
  (if failure ∈ failures then [] else
    [⟨"CLQ0019", s!"$.states[{index}].on_failure.{failure}",
      s!"unknown failure type {failure}"⟩]) ++
  validateTarget index s!"on_failure.{failure}" target states ++
  match states[target]? with
  | none => []
  | some targetState =>
    let mismatch : List Diagnostic :=
      [⟨"CLQ0020", s!"$.states[{index}].on_failure.{failure}",
        s!"failure edge must target a terminal fail state for {failure}"⟩]
    match targetState with
    | .fail _ terminalFailure => if terminalFailure = failure then [] else mismatch
    | _ => mismatch

def validateFailureEdges (index : ℕ) (onFailure : StringMap String) (failures : StringSet)
    (states : StringMap GlobalState) : List Diagnostic :=
  onFailure.toList.flatMap fun (failure, target) =>
    validateFailureEdge index failure target failures states

def validateBranch (index : ℕ) (label target : String) (states : StringMap GlobalState) :
    List Diagnostic :=
  (if label = "" then
    [⟨"CLQ0009", s!"$.states[{index}].branches", "branch labels cannot be empty"⟩] else []) ++
  validateTarget index label target states

/-- The body of the loop over the states. -/
def validateState (roles types failures : StringSet) (states : StringMap GlobalState)
    (index : ℕ) : GlobalState → List Diagnostic
  | .send _ sender receiver message next _ onFailure =>
      validateRoles index sender receiver roles ++
      (if message ∈ types then [] else
        [⟨"CLQ0006", s!"$.states[{index}].message", s!"unknown message type {message}"⟩]) ++
      validateTarget index "next" next states ++
      validateFailureEdges index onFailure failures states
  | .choice _ chooser branches onFailure =>
      (if chooser ∈ roles then [] else
        [⟨"CLQ0007", s!"$.states[{index}].chooser", s!"unknown chooser role {chooser}"⟩]) ++
      (if branches.size < 2 then
        [⟨"CLQ0008", s!"$.states[{index}].branches",
          "a choice requires at least two branches"⟩] else []) ++
      (branches.toList.flatMap fun (label, target) => validateBranch index label target states) ++
      validateFailureEdges index onFailure failures states
  | .cancel _ sender receiver scope next onFailure =>
      validateRoles index sender receiver roles ++
      (if scope = "" then
        [⟨"CLQ0010", s!"$.states[{index}].scope", "cancellation scope cannot be empty"⟩]
        else []) ++
      validateTarget index "next" next states ++
      validateFailureEdges index onFailure failures states
  | .fail _ failure =>
      if failure ∈ failures then [] else
        [⟨"CLQ0019", s!"$.states[{index}].failure", s!"unknown failure type {failure}"⟩]
  | .end _ => []

/-- The body of the breadth-first loop over the state map. -/
def reachabilityStep (states : StringMap GlobalState) :
    GraphSearch.Search String compare → Option (GraphSearch.Search String compare) :=
  GraphSearch.step states GlobalState.successors GlobalState.isTerminal

/-- The reachability loop: `visited` is `reachable` and `found` is `reaches_terminal`. -/
def reachabilityLoop (states : StringMap GlobalState) (initial : String) :
    GraphSearch.Search String compare :=
  GraphSearch.run states GlobalState.successors GlobalState.isTerminal initial

def validateReachability (conversation : Conversation) (states : StringMap GlobalState) :
    List Diagnostic :=
  let search := reachabilityLoop states conversation.initial
  (conversation.states.flatMap fun state =>
    if state.id ∈ search.visited then [] else
      [⟨"CLQ0017", s!"$.states[id={state.id}]",
        "state is unreachable from the initial state"⟩]) ++
  (if search.found then [] else
    [⟨"CLQ0018", "$.states",
      "no successful or failed terminal state is reachable from the initial state"⟩])

/-- The diagnostics of every check before reachability. -/
def validateStructure (conversation : Conversation) : List Diagnostic :=
  let (roleIds, roleDiagnostics) := uniqueIds (conversation.roles.map Role.id) "$.roles" "role"
  let (typeIds, typeDiagnostics) :=
    uniqueIds (conversation.types.map TypeDefinition.id) "$.types" "type"
  let (failureIds, failureDiagnostics) :=
    uniqueIds (conversation.failures.map FailureDefinition.id) "$.failures" "failure"
  let (states, stateDiagnostics) := collectStates conversation.states
  (if conversation.colloqConversation = conversationFormat then [] else
    [⟨"CLQ0001", "$.colloq_conversation",
      s!"unsupported format {conversation.colloqConversation}; expected {conversationFormat}"⟩]) ++
  roleDiagnostics ++
  (if conversation.roles.length = 2 then [] else
    [⟨"CLQ0002", "$.roles",
      "Colloq Conversation v0 endpoint projection requires exactly two roles"⟩]) ++
  typeDiagnostics ++
  (conversation.types.zipIdx.flatMap fun (type, index) =>
    if "kind" ∈ type.definition then [] else
      [⟨"CLQ0003", s!"$.types[{index}]", s!"type {type.id} is missing its kind"⟩]) ++
  failureDiagnostics ++
  stateDiagnostics ++
  (if conversation.initial ∈ states then [] else
    [⟨"CLQ0005", "$.initial", s!"initial state {conversation.initial} does not exist"⟩]) ++
  conversation.states.zipIdx.flatMap fun (state, index) =>
    validateState roleIds typeIds failureIds states index state

def validate (conversation : Conversation) : Except ValidationErrors Unit :=
  let diagnostics := validateStructure conversation
  let diagnostics :=
    if diagnostics = [] then
      validateReachability conversation (collectStates conversation.states).1
    else diagnostics
  if diagnostics = [] then .ok () else .error ⟨diagnostics⟩

end Colloq
