import Colloq.Decode
import Colloq.Generate
import Colloq.Jev
import Colloq.Library.Retry

/-!
# The live decider

The client sends one question, and sends it again after a pause if the response says that
the service is too busy. A response that is no answer ends in a typed failure, never in a
label that it does not propose. What sending returns is a parameter of the model, since the
agent of the `ureq` crate connects and follows redirects, and so is the conversion of a
number to an `f64`.
-/

namespace Colloq.Jev

open Serde

/-! ## Questions and answers -/

/-- `QUESTION_ID` -/
def questionId : String := "colloq_choice"

def choiceRequestBody (request : ChoiceRequest) : Value :=
  let criterion : Option String → Json
    | some text => .string text
    | none => .null
  .fromJson (.object
    [("state", request.state.json), ("model", .string request.model),
      ("questions", .object
        [(questionId, .object
          [("type", .string "choice"), ("instructions", request.instructions.json),
            ("criteria", .object (request.criteria.toList.map fun entry =>
              (entry.1, criterion entry.2)))])])])

/-- `Value::get` of a key in a part of a value. -/
def getMember (json : Json) (key : String) : Option Json :=
  match json with
  | .object members => members.lookup key
  | _ => none

/-- How a number is read as an `f64`. -/
abbrev ToF64 := Number → F64

def readF64 (toF64 : ToF64) : Json → Except String F64
  | .number value => .ok (toF64 value)
  | _ => .error "invalid type, expected f64"

/-- Unknown fields are ignored. -/
def ChoiceAnswer.fromJson (toF64 : ToF64) (json : Json) : Except String ChoiceAnswer := do
  let members ← readOpenStruct ["choice", "probabilities", "confidence"] json
  return {
    choice := ← readRequired readString members "choice"
    probabilities := ← readRequired (readMap (readF64 toF64)) members "probabilities"
    confidence := ← readRequired (readF64 toF64) members "confidence" }

def parseChoiceResponse (toF64 : ToF64) (response : Value) : Except JevError ChoiceAnswer := do
  match (getMember response.json "answers").bind fun answers => getMember answers questionId with
  | none => throw (.invalidAnswer s!"response has no answers.{questionId}")
  | some answer =>
    Checked.ensure ((getMember answer "type").bind Json.asStr = some "choice")
      (.invalidAnswer "answer is not a choice")
    (ChoiceAnswer.fromJson toF64 answer).mapError .invalidAnswer

/-! ## The client -/

/-- A response, with its body as text and as a document. -/
structure HttpResponse where
  status : UInt16
  text : String
  json : Except String Value

/-- The service is too busy, 429 or 529. -/
def HttpResponse.retryable (response : HttpResponse) : Bool :=
  response.status == 429 || response.status == 529

/-- `(200..300).contains(&status)` -/
def HttpResponse.successful (response : HttpResponse) : Bool :=
  200 ≤ response.status && response.status < 300

/-- What `send_json` of a body returns at each attempt: the response at the end of the redirects
that the agent follows, or the text of a transport error. -/
abbrev SendJson := ℕ → Value → Except String HttpResponse

/-- Whether the client asks again while pauses are left. A transport error is final. -/
def asksAgain : Except String HttpResponse → Bool
  | .ok response => response.retryable
  | .error _ => false

/-- In milliseconds. -/
def backoff : List ℕ := [250, 1000]

/-- What the client makes of the last response. -/
def settle (toF64 : ToF64) (response : Except String HttpResponse) :
    Except JevError ChoiceAnswer := do
  let response ← response.mapError .unavailable
  Checked.ensure (response.successful = true) (.unavailable
    s!"HTTP {response.status.toNat}: {String.ofList (response.text.toList.take 300)}")
  let value ← response.json.mapError .invalidAnswer
  parseChoiceResponse toF64 value

/-- The loop of `choose`, with what it does and the result of `send_json` that it ends with. -/
def exchange (sendJson : SendJson) (request : ChoiceRequest) :
    List (Retry.Event ℕ) × Except String HttpResponse :=
  Retry.loop (fun attempt => sendJson attempt (choiceRequestBody request)) asksAgain backoff 0

/-- `TypeSafeClient` -/
def typeSafeClient (toF64 : ToF64) (sendJson : SendJson) : Decider where
  choose request := settle toF64 (exchange sendJson request).2

/-! ## What a decision rests on -/

/-- The response that the attempt returned proposes the answer. -/
structure Proposed (toF64 : ToF64) (sendJson : SendJson) (body : Value) (attempt : ℕ)
    (answer : ChoiceAnswer) : Prop where
  responds : ∃ response value, sendJson attempt body = .ok response ∧
    response.successful = true ∧ response.json = .ok value ∧
      parseChoiceResponse toF64 value = .ok answer

theorem settle_eq_ok_iff {toF64 : ToF64} {sendJson : SendJson} {body : Value} {attempt : ℕ}
    {answer : ChoiceAnswer} :
    settle toF64 (sendJson attempt body) = .ok answer ↔
      Proposed toF64 sendJson body attempt answer := by
  rw [settle]
  simp only [Checked.bind_eq_ok_iff, mapError_eq_ok_iff]
  constructor
  · intro settled
    rcases settled with ⟨response, responded, _, successful, value, json, parsed⟩
    exact ⟨response, value, responded, Checked.ensure_eq_ok_iff.mp successful, json, parsed⟩
  · intro proposed
    rcases proposed.responds with ⟨response, value, responded, successful, json, parsed⟩
    exact ⟨response, responded, (), Checked.ensure_eq_ok_iff.mpr successful, value, json, parsed⟩

/-- The failure of a decision that got no answer. -/
def Unavailable {α : Type} (result : Except JevError α) : Prop :=
  ∃ text, result = .error (.unavailable text)

theorem not_unavailable_mapError {α : Type} (result : Except String α) :
    ¬Unavailable (result.mapError JevError.invalidAnswer) := by
  rintro ⟨text, failed⟩
  cases result <;> cases failed

theorem not_unavailable_parse {toF64 : ToF64} (response : Value) :
    ¬Unavailable (parseChoiceResponse toF64 response) := by
  rw [parseChoiceResponse]
  cases (getMember response.json "answers").bind fun answers => getMember answers questionId with
  | none =>
      rintro ⟨text, failed⟩
      cases failed
  | some answer =>
      simp only [Checked.ensure, Bind.bind, Except.bind]
      split_ifs
      · exact not_unavailable_mapError _
      · rintro ⟨text, failed⟩
        cases failed

/-- Only a transport error and a status that reports no success count as unavailable. -/
theorem unavailable_settle_iff {toF64 : ToF64} {response : Except String HttpResponse} :
    Unavailable (settle toF64 response) ↔
      ¬∃ received, response = .ok received ∧ received.successful = true := by
  rw [settle]
  cases response with
  | error error => simp [Unavailable, Except.mapError, Bind.bind, Except.bind]
  | ok received =>
      by_cases successful : received.successful = true
      · have usable : ¬Unavailable (do
            let value ← received.json.mapError .invalidAnswer
            parseChoiceResponse toF64 value) := by
          cases json : received.json with
          | error error =>
              rintro ⟨text, failed⟩
              cases failed
          | ok value => exact not_unavailable_parse value
        simpa [Except.mapError, Checked.ensure, successful, Bind.bind, Except.bind] using usable
      · simp [Unavailable, Except.mapError, Checked.ensure, successful, Bind.bind, Except.bind]

variable {display : Display} {bound : BoundChoice}

theorem unavailable_decide_iff {decider : Decider} {state : Value} :
    Unavailable (bound.decide display decider state) ↔
      Unavailable (decider.choose (bound.request state)) := by
  rw [BoundChoice.decide]
  cases answered : decider.choose (bound.request state) with
  | error error => simp [Unavailable, Bind.bind, Except.bind]
  | ok answer =>
      simp only [Unavailable, Checked.ensure, Bind.bind, Except.bind]
      split_ifs <;> simp [pure, Except.pure]

/-! ## The result -/

/-- A live decision rests on the last of at most three results of `send_json` for the same question.
The ones before it were too busy, and it proposes the option; the chooser can emit the label. If it
is no response that reports a success, the decision fails as unavailable. -/
theorem live_decision_rests_on_response (toF64 : ToF64) (sendJson : SendJson) (display : Display)
    (conversation : Conversation) (binding : JevBinding) (bound : BoundChoice)
    (accepted : bind display conversation binding = .ok bound) (state : Value) :
    ∃ last ≤ 2,
      (∀ attempt < last, ∃ response,
        sendJson attempt (choiceRequestBody (bound.request state)) = .ok response ∧
          response.retryable = true) ∧
      (last < 2 → ∀ response,
        sendJson last (choiceRequestBody (bound.request state)) = .ok response →
          response.retryable = false) ∧
      (exchange sendJson (bound.request state)).1 = Retry.events (backoff.take last) ∧
      (Unavailable (bound.decide display (typeSafeClient toF64 sendJson) state) ↔
        ¬∃ response, sendJson last (choiceRequestBody (bound.request state)) = .ok response ∧
          response.successful = true) ∧
      (∀ decision, bound.decide display (typeSafeClient toF64 sendJson) state = .ok decision ↔
        ∃ answer, Proposed toF64 sendJson (choiceRequestBody (bound.request state)) last answer ∧
          answer.choice ∈ binding.criteria ∧ answer.confidence.inUnit = true ∧
          decision = bound.decision answer) ∧
      ∀ decision, bound.decide display (typeSafeClient toF64 sendJson) state = .ok decision →
        ∀ (crates : Crates) (plan : PreparedPlan) (machine : EndpointMachine),
          PreparedPlan.compile crates conversation = .ok plan → machine.Runs plan →
          machine.role = bound.chooser → machine.current = binding.state →
            ∃ envelope after,
              machine.emitSelect decision.label = some (.ok envelope, after) := by
  rcases accepted_of_bind accepted with ⟨branches, accepted⟩
  rcases Retry.exists_settles
    (fun attempt => sendJson attempt (choiceRequestBody (bound.request state))) asksAgain backoff
      0 with ⟨last, settles, ended⟩
  have chosen : (typeSafeClient toF64 sendJson).choose (bound.request state) =
      settle toF64 (sendJson last (choiceRequestBody (bound.request state))) := by
    simp only [typeSafeClient, exchange, ended]
  have decides : ∀ decision,
      bound.decide display (typeSafeClient toF64 sendJson) state = .ok decision ↔
        ∃ answer, Proposed toF64 sendJson (choiceRequestBody (bound.request state)) last answer ∧
          answer.choice ∈ binding.criteria ∧ answer.confidence.inUnit = true ∧
          decision = bound.decision answer := by
    intro decision
    simp only [← settle_eq_ok_iff, ← chosen, ← accepted.binding_eq]
    constructor
    · intro returned
      cases answered : (typeSafeClient toF64 sendJson).choose (bound.request state) with
      | error error =>
          simp only [BoundChoice.decide, answered] at returned
          cases returned
      | ok answer => exact ⟨answer, rfl, (decide_eq_ok_iff answered).mp returned⟩
    · intro found
      rcases found with ⟨answer, answered, usable⟩
      exact (decide_eq_ok_iff answered).mpr usable
  refine ⟨last, ?_, ?_, ?_, ?_, ?_, decides, ?_⟩
  · simpa [backoff] using settles.last_le
  · intro attempt less
    have again := settles.earlier attempt (Nat.zero_le _) less
    cases responded : sendJson attempt (choiceRequestBody (bound.request state)) with
    | error error => simp [responded, asksAgain] at again
    | ok response => exact ⟨response, rfl, by simpa [responded, asksAgain] using again⟩
  · intro less response responded
    have enough := settles.final (by simpa [backoff] using less)
    simpa [responded, asksAgain] using enough
  · simp only [exchange, ended, Nat.sub_zero]
  · rw [unavailable_decide_iff, chosen, unavailable_settle_iff]
  · intro decision returned crates plan machine compiled runs role current
    rcases (decides decision).mp returned with ⟨answer, _, option, _, same⟩
    rw [same]
    exact accepted.exists_emitted compiled runs role current (accepted.label_mem option)

/-- Exact for the integers that an `f64` holds. -/
def exactF64 : ToF64
  | .posInt value => .finite value.toNat
  | .negInt value _ => .finite value.toInt
  | .float _ => .nan

def approval : Value :=
  ⟨.object [("answers", .object [(questionId, .object
    [("choice", .string "approve"), ("confidence", .number (.posInt 1)),
      ("probabilities", .object [("approve", .number (.posInt 1))]),
      ("type", .string "choice")])])], rfl⟩

/-- The first request is answered by a service that is too busy, the second one is approved. -/
def busyOnce : SendJson
  | 0, _ => .ok { status := 429, text := "busy", json := .error "expected value" }
  | _ + 1, _ => .ok { status := 200, text := "", json := .ok approval }

theorem exists_approved : ∃ answer, parseChoiceResponse exactF64 approval = .ok answer ∧
    answer.choice = "approve" ∧ answer.confidence = .finite 1 :=
  ⟨{ choice := "approve", probabilities := {("approve", .finite 1)},
     confidence := .finite 1 }, rfl, rfl, rfl⟩

theorem live_decision_rests_on_response_triage :
    ∃ decision,
      (triageChoice 1).decide (fun _ => "") (typeSafeClient exactF64 busyOnce) .null =
        .ok decision ∧ decision.label = "approve" ∧
      ∃ envelope after, (triage.initialMachine .reference "client").emitSelect decision.label =
        some (.ok envelope, after) := by
  have bound : bind (fun _ => "") triage (triageBinding 1) = .ok (triageChoice 1) := rfl
  rcases live_decision_rests_on_response exactF64 busyOnce (fun _ => "") triage (triageBinding 1)
    (triageChoice 1) bound .null with ⟨last, least, earlier, final, _, _, decides, emits⟩
  have second : last = 1 := by
    rcases last with _ | _ | last
    · exact absurd (final (by omega) _ rfl) (by decide)
    · rfl
    · rcases earlier 1 (by omega) with ⟨response, responded, busy⟩
      cases responded
      exact absurd busy (by decide)
  rcases exists_approved with ⟨answer, parsed, choice, confidence⟩
  have proposed : Proposed exactF64 busyOnce (choiceRequestBody ((triageChoice 1).request .null))
      last answer := by
    rw [second]
    exact ⟨_, approval, rfl, by decide, rfl, parsed⟩
  have returned := (decides _).mpr ⟨answer, proposed, by rw [choice]; decide,
    F64.inUnit_iff.mpr ⟨1, confidence, by norm_num, le_rfl⟩, rfl⟩
  have created : EndpointMachine.fromPlan (triage.preparedPlan .reference) "client" =
      .ok (triage.initialMachine .reference "client") :=
    Conversation.fromPlan_preparedPlan_eq_ok_iff.mpr ⟨List.mem_cons_self, rfl⟩
  refine ⟨_, returned, ?_, emits _ returned .reference _ _
    (Conversation.preparedPlan_compile_eq_ok_iff.mpr ⟨compilable_triage, rfl⟩)
    (EndpointMachine.runs_of_fromPlan created) rfl rfl⟩
  simp [BoundChoice.decision, triageChoice, triageBinding, choice, confidence, F64.lt]

end Colloq.Jev
