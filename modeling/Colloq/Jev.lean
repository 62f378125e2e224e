import Colloq.JsonText
import Colloq.Refinement

/-!
# Jev as a chooser

A binding lets a decider answer the choice of one state. `bind` validates it
against its conversation, and `decide` turns an answer into the label that the
chooser role emits: the proposed one, or the escalation branch if the confidence
is below the threshold.
-/

namespace Colloq.Jev

/-- An `f64`, with its finite values as rationals. -/
inductive F64 where
  | nan
  | infinite (negative : Bool)
  | finite (value : ℚ)
deriving DecidableEq

namespace F64

def isFinite : F64 → Bool
  | .finite _ => true
  | .nan | .infinite _ => false

/-- `<`, which does not hold of a NaN. -/
def lt : F64 → F64 → Bool
  | .nan, _ | _, .nan => false
  | .finite left, .finite right => left < right
  | .infinite left, .infinite right => left && !right
  | .infinite negative, .finite _ => negative
  | .finite _, .infinite negative => !negative

/-- `<=`, which does not hold of a NaN. -/
def le : F64 → F64 → Bool
  | .nan, _ | _, .nan => false
  | .finite left, .finite right => left ≤ right
  | .infinite left, .infinite right => left || !right
  | .infinite negative, .finite _ => negative
  | .finite _, .infinite negative => !negative

/-- `is_finite() && (0.0..=1.0).contains(&value)` -/
def inUnit (value : F64) : Bool :=
  value.isFinite && (le (.finite 0) value && le value (.finite 1))

theorem inUnit_iff {value : F64} :
    value.inUnit = true ↔ ∃ exact : ℚ, value = .finite exact ∧ 0 ≤ exact ∧ exact ≤ 1 := by
  cases value <;> simp [inUnit, isFinite, le]

end F64

/-- `JEV_BINDING_FORMAT` -/
def jevBindingFormat : String := "0.1.0"

structure JevBinding where
  schema : Option String := none
  colloqJev : String
  conversation : String
  state : String
  model : String
  instructions : Value
  criteria : StringMap (Option String)
  threshold : F64
  escalate : String

structure BoundChoice where
  binding : JevBinding
  chooser : String
  branches : StringSet

/-- `char::is_whitespace` -/
def isWhitespace (character : Char) : Bool :=
  let code := character.toNat
  (0x9 ≤ code && code ≤ 0xd) || code == 0x20 || code == 0x85 || code == 0xa0 || code == 0x1680 ||
    (0x2000 ≤ code && code ≤ 0x200a) || code == 0x2028 || code == 0x2029 || code == 0x202f ||
    code == 0x205f || code == 0x3000

/-- A decimal rendering of an `f64`, which only the texts of errors use. -/
abbrev Display := F64 → String

/-- The checks that do not look at the state. -/
def checkBinding (display : Display) (conversation : Conversation) (binding : JevBinding) :
    List Diagnostic :=
  (if binding.colloqJev = jevBindingFormat then [] else
    [⟨"CLQJ001", "$.colloq_jev",
      s!"unsupported format {binding.colloqJev}; expected {jevBindingFormat}"⟩]) ++
  (if binding.conversation = conversation.module.id then [] else
    [⟨"CLQJ002", "$.conversation",
      s!"binding targets {binding.conversation}, but the conversation is {conversation.module.id}"⟩]) ++
  (if binding.model.toList.all isWhitespace then
    [⟨"CLQJ003", "$.model", "model must not be empty"⟩] else []) ++
  (if binding.threshold.inUnit then [] else
    [⟨"CLQJ004", "$.threshold",
      s!"threshold {display binding.threshold} must be within 0..=1"⟩]) ++
  (if binding.criteria.size < 2 then
    [⟨"CLQJ005", "$.criteria", "a Choice needs at least two options"⟩] else [])

/-- The checks of the criteria and the escalation against the branches of the state. -/
def checkCriteria (binding : JevBinding) (branches : StringSet) : List Diagnostic :=
  (binding.criteria.keys.flatMap fun option =>
    if option ∈ branches then [] else
      [⟨"CLQJ008", s!"$.criteria.{option}", s!"{option} is not a branch of {binding.state}"⟩]) ++
  (branches.toList.flatMap fun branch =>
    if branch ≠ binding.escalate ∧ branch ∉ binding.criteria then
      [⟨"CLQJ009", "$.criteria",
        s!"branch {branch} has no criterion, so Jev can never select it"⟩]
    else []) ++
  (if binding.escalate ∈ branches then [] else
    [⟨"CLQJ010", "$.escalate", s!"{binding.escalate} is not a branch of {binding.state}"⟩])

def bind (display : Display) (conversation : Conversation) (binding : JevBinding) :
    Except ValidationErrors BoundChoice := do
  validate conversation
  let diagnostics := checkBinding display conversation binding
  match conversation.states.find? fun state => state.id == binding.state with
  | some (.choice _ chooser branches _) =>
    let branches : StringSet := .ofList branches.keys
    let diagnostics := diagnostics ++ checkCriteria binding branches
    if diagnostics = [] then return { binding, chooser, branches }
    else throw ⟨diagnostics⟩
  | some _ =>
    throw ⟨diagnostics ++ [⟨"CLQJ006", "$.state", s!"state {binding.state} is not a choice"⟩]⟩
  | none =>
    throw ⟨diagnostics ++ [⟨"CLQJ007", "$.state", s!"state {binding.state} does not exist"⟩]⟩

/-! ## Decisions -/

structure ChoiceRequest where
  model : String
  state : Value
  instructions : Value
  criteria : StringMap (Option String)

structure ChoiceAnswer where
  choice : String
  probabilities : StringMap F64
  confidence : F64

inductive JevError where
  | unavailable (text : String)
  | invalidAnswer (text : String)

/-- Anything that can answer a question. -/
structure Decider where
  choose : ChoiceRequest → Except JevError ChoiceAnswer

structure JevDecision where
  state : String
  chooser : String
  label : String
  choice : String
  confidence : F64
  threshold : F64
  escalated : Bool
  probabilities : StringMap F64
  model : String

namespace BoundChoice

def request (bound : BoundChoice) (state : Value) : ChoiceRequest where
  model := bound.binding.model
  state := state
  instructions := bound.binding.instructions
  criteria := bound.binding.criteria

/-- The decision on a usable answer. -/
def decision (bound : BoundChoice) (answer : ChoiceAnswer) : JevDecision :=
  let binding := bound.binding
  let escalated := answer.confidence.lt binding.threshold
  { state := binding.state
    chooser := bound.chooser
    label := if escalated then binding.escalate else answer.choice
    choice := answer.choice
    confidence := answer.confidence
    threshold := binding.threshold
    escalated
    probabilities := answer.probabilities
    model := binding.model }

def decide (display : Display) (bound : BoundChoice) (decider : Decider) (state : Value) :
    Except JevError JevDecision := do
  let binding := bound.binding
  let answer ← decider.choose (bound.request state)
  Checked.ensure (answer.choice ∈ binding.criteria)
    (.invalidAnswer s!"choice {answer.choice} is not an option of {binding.state}")
  Checked.ensure (answer.confidence.inUnit = true)
    (.invalidAnswer s!"confidence {display answer.confidence} is outside 0..=1")
  return bound.decision answer

end BoundChoice

/-! ## What the checks establish -/

/-- A binding that `bind` accepts, with the choice state that it is about. -/
structure Accepted (conversation : Conversation) (binding : JevBinding) (bound : BoundChoice)
    (branches : StringMap String) : Prop where
  wellFormed : conversation.WellFormed
  binding_eq : bound.binding = binding
  state_mem : ∃ onFailure,
    GlobalState.choice binding.state bound.chooser branches onFailure ∈ conversation.states
  mem_branches : ∀ label : String, label ∈ bound.branches ↔ label ∈ branches
  threshold : ∃ exact : ℚ, binding.threshold = .finite exact ∧ 0 ≤ exact ∧ exact ≤ 1
  twoCriteria : 2 ≤ binding.criteria.size
  criteria : ∀ option : String, option ∈ binding.criteria → option ∈ branches
  covered : ∀ label : String, label ∈ branches →
    label = binding.escalate ∨ label ∈ binding.criteria
  escalate : binding.escalate ∈ branches

variable {display : Display} {conversation : Conversation} {binding : JevBinding}
  {bound : BoundChoice}

theorem checkBinding_eq_nil (passed : checkBinding display conversation binding = []) :
    (∃ exact : ℚ, binding.threshold = .finite exact ∧ 0 ≤ exact ∧ exact ≤ 1) ∧
      2 ≤ binding.criteria.size := by
  simp only [checkBinding, List.append_eq_nil_iff, ite_eq_left_iff, ite_eq_right_iff] at passed
  rcases passed with ⟨⟨_, inUnit⟩, size⟩
  constructor
  · rw [← F64.inUnit_iff]
    by_contra outside
    cases inUnit outside
  · by_contra few
    cases size (by omega)

theorem checkCriteria_eq_nil {branches : StringSet}
    (passed : checkCriteria binding branches = []) :
    (∀ option : String, option ∈ binding.criteria → option ∈ branches) ∧
      (∀ label : String, label ∈ branches →
        label = binding.escalate ∨ label ∈ binding.criteria) ∧
      binding.escalate ∈ branches := by
  simp only [checkCriteria, List.append_eq_nil_iff, List.flatMap_eq_nil_iff] at passed
  rcases passed with ⟨⟨options, labels⟩, escalate⟩
  refine ⟨?_, ?_, ?_⟩
  · intro option member
    by_contra unknown
    simpa [unknown] using options option (Std.ExtTreeMap.mem_keys.mpr member)
  · intro label member
    by_contra neither
    rw [not_or] at neither
    simpa [neither] using labels label (Std.ExtTreeSet.mem_toList.mpr member)
  · by_contra unknown
    simp [unknown] at escalate

/-- A binding that is accepted names the branches of one select state of the conversation. -/
theorem accepted_of_bind (accepted : bind display conversation binding = .ok bound) :
    ∃ branches, Accepted conversation binding bound branches := by
  rcases Checked.check_bind_eq_ok_iff.mp accepted with ⟨valid, passed⟩
  have wellFormed := (validate_eq_ok_iff conversation).mp valid
  rcases found : conversation.states.find? (fun state => state.id == binding.state) with _ | state
  · simp [found, throw, throwThe, MonadExceptOf.throw] at passed
  · have member := List.mem_of_find?_eq_some found
    have here : state.id = binding.state := by simpa using List.find?_some found
    cases state with
    | choice id chooser branches onFailure =>
        simp only [found] at passed
        split_ifs at passed with clean
        · cases passed
          rcases List.append_eq_nil_iff.mp clean with ⟨binding_, criteria_⟩
          rcases checkBinding_eq_nil binding_ with ⟨threshold, size⟩
          rcases checkCriteria_eq_nil criteria_ with ⟨options, labels, escalate⟩
          have mem : ∀ label : String,
              label ∈ (Std.ExtTreeSet.ofList branches.keys : StringSet) ↔ label ∈ branches := by
            intro label
            rw [mem_ofList, Std.ExtTreeMap.mem_keys]
          simp only [mem] at options labels escalate
          cases here
          exact ⟨branches, wellFormed, rfl, ⟨onFailure, member⟩, mem, threshold, size, options,
            labels, escalate⟩
    | send | cancel | «end» | fail =>
        simp [found, throw, throwThe, MonadExceptOf.throw] at passed

/-- What `decide` makes of an answer. -/
theorem decide_eq_ok_iff {decider : Decider} {state : Value} {answer : ChoiceAnswer}
    {decision : JevDecision} (answered : decider.choose (bound.request state) = .ok answer) :
    bound.decide display decider state = .ok decision ↔
      answer.choice ∈ bound.binding.criteria ∧ answer.confidence.inUnit = true ∧
        decision = bound.decision answer := by
  simp only [BoundChoice.decide, answered]
  change (Checked.ensure _ _ >>= fun _ => _) = _ ↔ _
  rw [Checked.check_bind_eq_ok_iff, Checked.check_bind_eq_ok_iff, Checked.ensure_eq_ok_iff,
    Checked.ensure_eq_ok_iff]
  refine and_congr_right fun _ => and_congr_right fun _ => ?_
  constructor
  · intro returned
    exact (Except.ok.inj returned).symm
  · intro same
    rw [same]
    rfl

theorem Accepted.exists_criterion {branches : StringMap String}
    (accepted : Accepted conversation binding bound branches) :
    ∃ option : String, option ∈ binding.criteria := by
  have nonempty : binding.criteria.keys ≠ [] := by
    intro empty
    have length := accepted.twoCriteria
    rw [← Std.ExtTreeMap.length_keys, empty] at length
    simp at length
  rcases List.exists_mem_of_ne_nil _ nonempty with ⟨option, member⟩
  exact ⟨option, Std.ExtTreeMap.mem_keys.mp member⟩

/-- The label of a decision is a branch of the bound state. -/
theorem Accepted.label_mem {branches : StringMap String} {answer : ChoiceAnswer}
    (accepted : Accepted conversation binding bound branches)
    (option : answer.choice ∈ binding.criteria) : (bound.decision answer).label ∈ branches := by
  simp only [BoundChoice.decision, accepted.binding_eq]
  split_ifs
  · exact accepted.escalate
  · exact accepted.criteria answer.choice option

/-- Without a criterion, only a confidence below the threshold leads to the escalation. -/
theorem Accepted.label_ne_escalate {branches : StringMap String} {threshold : ℚ}
    {decider : Decider} {state : Value} {decision : JevDecision}
    (accepted : Accepted conversation binding bound branches)
    (exact : binding.threshold = .finite threshold)
    (uncovered : binding.escalate ∉ binding.criteria)
    (zero : ¬0 < threshold) (returned : bound.decide display decider state = .ok decision) :
    decision.label ≠ binding.escalate := by
  intro label
  rcases answered : decider.choose (bound.request state) with error | answer
  · simp only [BoundChoice.decide, answered] at returned
    cases returned
  · rcases (decide_eq_ok_iff answered).mp returned with ⟨option, inUnit, same⟩
    rcases F64.inUnit_iff.mp inUnit with ⟨confidence, isConfidence, nonneg, _⟩
    have reached : ¬confidence < threshold := not_lt.mpr ((not_lt.mp zero).trans nonneg)
    rw [same] at label
    simp [BoundChoice.decision, accepted.binding_eq, exact, isConfidence, F64.lt, reached] at label
    rw [label, accepted.binding_eq] at option
    exact uncovered option

/-- A machine of the chooser at the bound state emits every branch of it. -/
theorem Accepted.exists_emitted {crates : Crates} {branches : StringMap String}
    {plan : PreparedPlan} {machine : EndpointMachine} {label : String}
    (accepted : Accepted conversation binding bound branches)
    (compiled : PreparedPlan.compile crates conversation = .ok plan) (runs : machine.Runs plan)
    (role : machine.role = bound.chooser) (current : machine.current = binding.state)
    (member : label ∈ branches) :
    ∃ envelope after, machine.emitSelect label = some (.ok envelope, after) := by
  rcases Conversation.preparedPlan_compile_eq_ok_iff.mp compiled with ⟨compilable, same⟩
  rw [same] at runs
  rcases accepted.state_mem with ⟨onFailure, stateMem⟩
  have found : conversation.stateMap[machine.current]? =
      some (.choice binding.state bound.chooser branches onFailure) := by
    rw [current]
    exact (Conversation.getElem?_stateMap accepted.wellFormed.stateIds_nodup).mpr ⟨stateMem, rfl⟩
  have hasState : conversation.HasState machine.current := by
    rw [current]
    exact List.mem_map_of_mem stateMem
  have executes : machine.Executes conversation :=
    compilable.executes_of_runs runs hasState
  have canEmit := executes.canEmit found (by rw [GlobalState.author, role])
  have present := executes.state_eq_of_found found
  simp only [EndpointMachine.CanEmit, present, projectState, role, if_true] at canEmit
  exact canEmit.2 label member

/-! ## A conversation with a choice of three -/

/-- A client approves, rejects or passes on. -/
def triage : Conversation where
  colloqConversation := "0.1.0"
  module := { id := "triage" }
  roles := [{ id := "client" }, { id := "server" }]
  types := []
  initial := "sort"
  states :=
    [.choice "sort" "client" {("approve", "done"), ("reject", "done"), ("review", "done")} ∅,
      .end "done"]

/-- The escalation branch is `review`, which has no criterion. -/
def triageBinding (threshold : ℚ) : JevBinding where
  colloqJev := "0.1.0"
  conversation := "triage"
  state := "sort"
  model := "jev"
  instructions := .null
  criteria := {("approve", none), ("reject", none)}
  threshold := .finite threshold
  escalate := "review"

def triageChoice (threshold : ℚ) : BoundChoice where
  binding := triageBinding threshold
  chooser := "client"
  branches := .ofList ["approve", "reject", "review"]

theorem compilable_triage : triage.Compilable where
  toWellFormed := (validate_eq_ok_iff triage).mp rfl
  module_valid := by decide
  role_valid := by decide
  state_valid := by decide
  transitionCount_le := by decide

/-- A decider that is certain to approve. -/
def approver : Decider where
  choose _ := .ok { choice := "approve", probabilities := ∅, confidence := .finite 1 }

/-! ## The results -/

/-- A decision is a legal step of the chooser: `decide` accepts exactly the answers that name
an option with a confidence between 0 and 1, the threshold decides between the proposed label
and the escalation, and the chooser at the bound state can emit the label. -/
theorem decision_is_legal (display : Display) (conversation : Conversation)
    (binding : JevBinding) (bound : BoundChoice)
    (accepted : bind display conversation binding = .ok bound) (decider : Decider)
    (state : Value) :
    (∀ error, decider.choose (bound.request state) = .error error →
      bound.decide display decider state = .error error) ∧
    ∀ answer, decider.choose (bound.request state) = .ok answer →
      ((∃ decision, bound.decide display decider state = .ok decision) ↔
        answer.choice ∈ binding.criteria ∧
          ∃ confidence : ℚ, answer.confidence = .finite confidence ∧ 0 ≤ confidence ∧
            confidence ≤ 1) ∧
      ∀ decision, bound.decide display decider state = .ok decision →
        (∃ confidence threshold : ℚ, answer.confidence = .finite confidence ∧
          binding.threshold = .finite threshold ∧
          decision.label = (if threshold ≤ confidence then answer.choice
            else binding.escalate) ∧
          (decision.escalated = true ↔ confidence < threshold)) ∧
        ∀ (crates : Crates) (plan : PreparedPlan) (machine : EndpointMachine),
          PreparedPlan.compile crates conversation = .ok plan → machine.Runs plan →
          machine.role = bound.chooser → machine.current = binding.state →
            ∃ envelope after,
              machine.emitSelect decision.label = some (.ok envelope, after) := by
  rcases accepted_of_bind accepted with ⟨branches, accepted⟩
  constructor
  · intro error failed
    simp only [BoundChoice.decide, failed]
    rfl
  · intro answer answered
    have decides := fun decision => @decide_eq_ok_iff display bound decider state answer decision
      answered
    constructor
    · simp only [decides, accepted.binding_eq, ← F64.inUnit_iff]
      simp
    · intro decision returned
      rcases (decides decision).mp returned with ⟨option, inUnit, same⟩
      rw [accepted.binding_eq] at option
      constructor
      · rcases F64.inUnit_iff.mp inUnit with ⟨confidence, exact, _⟩
        rcases accepted.threshold with ⟨threshold, bound_, _⟩
        refine ⟨confidence, threshold, exact, bound_, ?_⟩
        rw [same]
        simp only [BoundChoice.decision, accepted.binding_eq, exact, bound_, F64.lt]
        constructor
        · by_cases below : confidence < threshold
          · simp [below, not_le.mpr below]
          · simp [below, not_lt.mp below]
        · simp
      · intro crates plan machine compiled runs role current
        rw [same]
        exact accepted.exists_emitted compiled runs role current (accepted.label_mem option)

theorem decision_is_legal_triage :
    ∃ decision, (triageChoice 1).decide (fun _ => "") approver .null = .ok decision ∧
      decision.label = "approve" ∧
      ∃ envelope after, (triage.initialMachine .reference "client").emitSelect decision.label =
        some (.ok envelope, after) := by
  have bound : bind (fun _ => "") triage (triageBinding 1) = .ok (triageChoice 1) :=
    rfl
  have legal := (decision_is_legal _ triage _ _ bound approver .null).2 _ rfl
  rcases legal.1.mpr ⟨by decide, 1, rfl, by norm_num, le_rfl⟩ with ⟨decision, returned⟩
  rcases legal.2 decision returned with ⟨⟨confidence, threshold, exact, isThreshold, label, _⟩,
    emits⟩
  have created : EndpointMachine.fromPlan (triage.preparedPlan .reference) "client" =
      .ok (triage.initialMachine .reference "client") :=
    Conversation.fromPlan_preparedPlan_eq_ok_iff.mpr ⟨List.mem_cons_self, rfl⟩
  refine ⟨decision, returned, ?_, ?_⟩
  · cases exact
    cases isThreshold
    rw [label]
    norm_num
  · exact emits .reference _ _
      (Conversation.preparedPlan_compile_eq_ok_iff.mpr ⟨compilable_triage, rfl⟩)
      (EndpointMachine.runs_of_fromPlan created) rfl rfl

/-- Every branch of the bound state can be taken, unless the threshold is 0 and the escalation
branch has no criterion: then no confidence is below the threshold, and the branch is dead. -/
theorem no_dead_branch_iff (display : Display) (conversation : Conversation)
    (binding : JevBinding) (bound : BoundChoice)
    (accepted : bind display conversation binding = .ok bound) :
    (∀ label ∈ bound.branches, ∀ state, ∃ decider decision,
      bound.decide display decider state = .ok decision ∧ decision.label = label) ↔
    binding.escalate ∈ binding.criteria ∨ (F64.finite 0).lt binding.threshold = true := by
  rcases accepted_of_bind accepted with ⟨branches, accepted⟩
  rcases accepted.threshold with ⟨threshold, exact, low, high⟩
  have decided : ∀ state (answer : ChoiceAnswer), answer.choice ∈ binding.criteria →
      answer.confidence.inUnit = true → ∃ decider decision,
        bound.decide display decider state = .ok decision ∧
          decision.label = (bound.decision answer).label := by
    intro state answer option inUnit
    refine ⟨⟨fun _ => .ok answer⟩, bound.decision answer, ?_, rfl⟩
    rw [← accepted.binding_eq] at option
    exact (decide_eq_ok_iff rfl).mpr ⟨option, inUnit, rfl⟩
  simp only [exact, F64.lt, decide_eq_true_eq]
  constructor
  · intro live
    by_contra dead
    rw [not_or] at dead
    rcases live binding.escalate ((accepted.mem_branches _).mpr accepted.escalate) .null with
      ⟨decider, decision, returned, label⟩
    exact accepted.label_ne_escalate exact dead.1 dead.2 returned label
  · intro live label member state
    have certain : ((F64.finite 1).lt (.finite threshold)) = false := by
      simp [F64.lt, high]
    rcases Classical.em (label ∈ binding.criteria) with option | uncovered
    · rcases decided state { choice := label, probabilities := ∅, confidence := .finite 1 } option
        (by simp [F64.inUnit, F64.isFinite, F64.le]) with ⟨decider, decision, returned, same⟩
      refine ⟨decider, decision, returned, ?_⟩
      rw [same]
      simp [BoundChoice.decision, accepted.binding_eq, exact, certain]
    · have escalation : label = binding.escalate := by
        rcases accepted.covered label ((accepted.mem_branches label).mp member) with same | option
        · exact same
        · exact absurd option uncovered
      have positive : 0 < threshold := by
        rcases live with option | positive
        · rw [← escalation] at option
          exact absurd option uncovered
        · exact positive
      rcases accepted.exists_criterion with ⟨option, present⟩
      rcases decided state { choice := option, probabilities := ∅, confidence := .finite 0 }
        present (by simp [F64.inUnit, F64.isFinite, F64.le]) with
        ⟨decider, decision, returned, same⟩
      refine ⟨decider, decision, returned, ?_⟩
      rw [same, escalation]
      simp [BoundChoice.decision, accepted.binding_eq, exact, F64.lt, positive]

theorem no_dead_branch_iff_triage :
    (∀ label ∈ (triageChoice 1).branches, ∀ state, ∃ decider decision,
      (triageChoice 1).decide (fun _ => "") decider state = .ok decision ∧
        decision.label = label) ↔
    (triageBinding 1).escalate ∈ (triageBinding 1).criteria ∨
      (F64.finite 0).lt (triageBinding 1).threshold = true := by
  have bound : bind (fun _ => "") triage (triageBinding 1) = .ok (triageChoice 1) :=
    rfl
  exact no_dead_branch_iff _ triage _ _ bound

/-- With the threshold 0 nothing is ever passed on for review. -/
theorem escalation_is_dead :
    ¬∀ (conversation : Conversation) (binding : JevBinding) (bound : BoundChoice),
      bind (fun _ => "") conversation binding = .ok bound →
        ∀ label ∈ bound.branches, ∀ state, ∃ decider decision,
          bound.decide (fun _ => "") decider state = .ok decision ∧ decision.label = label := by
  intro live
  have bound : bind (fun _ => "") triage (triageBinding 0) = .ok (triageChoice 0) := rfl
  rcases live triage _ _ bound "review" (by decide) .null with
    ⟨decider, decision, returned, label⟩
  rcases accepted_of_bind bound with ⟨branches, accepted⟩
  exact accepted.label_ne_escalate rfl (by decide) (lt_irrefl 0) returned label

end Colloq.Jev
