import Colloq.Refinement

/-!
# What a trace verdict says

An accepted trace ends with its first fault, and the report names that failure.
A rejected trace names the first frame that the graph does not allow: the frames
before it are accepted, and no continuation of it is.
-/

namespace Colloq

/-- No frame leaves a terminal state. -/
theorem GlobalState.advance_eq_none_of_isTerminal {roles : StringSet} {state : GlobalState}
    {frame : Frame} (terminal : state.isTerminal = true) : state.advance roles frame = none := by
  cases state with
  | «end» | fail =>
      cases frame <;> simp [GlobalState.advance, GlobalState.failureTarget]
  | send | choice | cancel => simp [GlobalState.isTerminal] at terminal

namespace Conversation

variable {conversation : Conversation} {current final : String} {frames : List Frame}

theorem run_append {before after : List Frame} :
    conversation.run current (before ++ after) = some final ↔
      ∃ between, conversation.run current before = some between ∧
        conversation.run between after = some final := by
  simp [run, List.foldlM_append, Option.bind_eq_some_iff]

theorem run_cons {frame : Frame} :
    conversation.run current (frame :: frames) = some final ↔
      ∃ between, conversation.next current frame = some between ∧
        conversation.run between frames = some final := by
  simp [run, Option.bind_eq_some_iff]

/-- The first frame that the graph does not allow is what the error of the loop is about. -/
theorem WellFormed.traceFrom_cases (wellFormed : conversation.WellFormed) (step : ℕ)
    (frames : List Frame) (hasState : conversation.HasState current) :
    (∃ final, traceFrom conversation.stateMap conversation.roleSet step current frames =
        some (.ok final)) ∨
      ∃ before frame after error,
        traceFrom conversation.stateMap conversation.roleSet step current frames =
          some (.error error) ∧
        frames = before ++ frame :: after ∧ error.step = step + before.length ∧
        conversation.run current before = some error.state ∧
        conversation.next error.state frame = none := by
  induction frames generalizing step current with
  | nil => exact .inl ⟨current, rfl⟩
  | cons frame frames ih =>
      rcases wellFormed.exists_state hasState with ⟨state, _, _, found⟩
      rcases advanced : state.advance conversation.roleSet frame with _ | target
      · refine .inr ⟨[], frame, frames, ?_⟩
        simp [traceFrom, found, advanced, run, next]
      · have allowed : conversation.next current frame = some target := by
          simp [next, found, advanced]
        have moves : traceFrom conversation.stateMap conversation.roleSet step current
            (frame :: frames) =
              traceFrom conversation.stateMap conversation.roleSet (step + 1) target frames := by
          simp [traceFrom, found, advanced]
        rw [moves]
        rcases ih (step + 1) (wellFormed.hasState_next allowed) with accepted |
          ⟨before, refused, after, error, rejected, split, errorStep, ran, stuck⟩
        · exact .inl accepted
        · refine .inr ⟨frame :: before, refused, after, error, rejected, ?_, ?_, ?_, stuck⟩
          · rw [split, List.cons_append]
          · rw [errorStep, List.length_cons]
            omega
          · exact run_cons.mpr ⟨target, allowed, ran⟩

/-- A trace is accepted if the graph allows it. -/
theorem WellFormed.exists_report (wellFormed : conversation.WellFormed)
    (ran : conversation.run conversation.initial frames = some final) :
    ∃ report, verifyTrace conversation frames = some (.ok report) ∧
      report.finalState = final := by
  rcases wellFormed.exists_state (wellFormed.hasState_run wellFormed.initial_mem ran) with
    ⟨state, _, _, found⟩
  exact ⟨_, (verifyTrace_eq_ok_iff wellFormed).mpr ⟨final, state, ran, found, rfl⟩, rfl⟩

/-- The error of the loop is the verdict. -/
theorem WellFormed.verifyTrace_eq_error_iff (wellFormed : conversation.WellFormed)
    {error : VerifyTraceError} :
    verifyTrace conversation frames = some (.error error) ↔ ∃ traceError,
      error = .trace traceError ∧ traceFrom conversation.stateMap conversation.roleSet 0
        conversation.initial frames = some (.error traceError) := by
  have valid := (validate_eq_ok_iff conversation).mpr wellFormed
  rcases wellFormed.traceFrom_cases 0 frames wellFormed.initial_mem with ⟨final, accepted⟩ |
    ⟨_, _, _, traceError, rejected, _⟩
  · have ran := (traceFrom_eq_ok_iff wellFormed wellFormed.initial_mem).mp accepted
    rcases wellFormed.exists_report ran with ⟨report, verdict, _⟩
    simp [verdict, accepted]
  · simp only [verifyTrace, valid, rejected, Option.some.injEq, Except.error.injEq]
    constructor
    · intro same
      exact ⟨traceError, same.symm, rfl⟩
    · intro named
      rcases named with ⟨_, same, rejects⟩
      rw [same, rejects]

/-- A fault leads to a terminal state, so it is the last frame of the trace. -/
theorem WellFormed.fault_is_last (wellFormed : conversation.WellFormed)
    {observer failure : String} {before after : List Frame} {report : TraceReport}
    (accepted : verifyTrace conversation (before ++ .fault observer failure :: after) =
      some (.ok report)) :
    after = [] ∧ report.complete = true ∧ report.successful = false ∧
      report.failure = some failure := by
  rcases (verifyTrace_eq_ok_iff wellFormed).mp accepted with ⟨final, state, ran, found, same⟩
  rcases run_append.mp ran with ⟨between, _, faulted⟩
  rcases run_cons.mp faulted with ⟨target, allowed, rest⟩
  have member := wellFormed.fail_mem_of_next allowed
  have failed : conversation.stateMap[target]? = some (.fail target failure) :=
    (getElem?_stateMap wellFormed.stateIds_nodup).mpr ⟨member, rfl⟩
  cases after with
  | nil =>
      cases rest
      rw [failed] at found
      cases found
      rw [same]
      exact ⟨rfl, rfl, rfl, rfl⟩
  | cons frame after =>
      rcases run_cons.mp rest with ⟨_, left, _⟩
      rw [next, failed, Option.bind_some, GlobalState.advance_eq_none_of_isTerminal rfl] at left
      cases left

/-- What a verdict of the trace checker says about the frames: a fault ends an accepted trace
and is its failure, and an error is about the first frame that cannot be accepted. -/
theorem trace_verdicts (conversation : Conversation) (valid : validate conversation = .ok ())
    (frames : List Frame) :
    verifyTrace conversation frames ≠ none ∧
    (∀ report, verifyTrace conversation frames = some (.ok report) →
      (∀ before observer failure after, frames = before ++ .fault observer failure :: after →
        after = [] ∧ report.complete = true ∧ report.successful = false ∧
          report.failure = some failure) ∧
      ∀ earlier, earlier <+: frames →
        ∃ report, verifyTrace conversation earlier = some (.ok report)) ∧
    ∀ error, verifyTrace conversation frames = some (.error error) →
      ∃ traceError, error = .trace traceError ∧ traceError.step < frames.length ∧
        (∃ report, verifyTrace conversation (frames.take traceError.step) = some (.ok report) ∧
          report.finalState = traceError.state) ∧
        ∀ longer, frames.take (traceError.step + 1) <+: longer →
          ∀ report, verifyTrace conversation longer ≠ some (.ok report) := by
  have wellFormed := (validate_eq_ok_iff conversation).mp valid
  refine ⟨?_, ?_, ?_⟩
  · rcases wellFormed.traceFrom_cases 0 frames wellFormed.initial_mem with ⟨final, accepted⟩ |
      ⟨_, _, _, traceError, rejected, _⟩
    · have ran := (traceFrom_eq_ok_iff wellFormed wellFormed.initial_mem).mp accepted
      rcases wellFormed.exists_report ran with ⟨report, verdict, _⟩
      simp [verdict]
    · simp [wellFormed.verifyTrace_eq_error_iff.mpr ⟨traceError, rfl, rejected⟩]
  · intro report accepted
    constructor
    · intro before observer failure after split
      subst split
      exact wellFormed.fault_is_last accepted
    · intro earlier start
      rcases start with ⟨after, split⟩
      rcases (verifyTrace_eq_ok_iff wellFormed).mp accepted with ⟨_, _, ran, _, _⟩
      rw [← split] at ran
      rcases run_append.mp ran with ⟨_, ran, _⟩
      rcases wellFormed.exists_report ran with ⟨report, verdict, _⟩
      exact ⟨report, verdict⟩
  · intro error rejected
    rcases wellFormed.verifyTrace_eq_error_iff.mp rejected with ⟨traceError, named, stopped⟩
    rcases wellFormed.traceFrom_cases 0 frames wellFormed.initial_mem with ⟨final, accepted⟩ |
      ⟨before, frame, after, other, reported, split, errorStep, ran, stuck⟩
    · rw [accepted] at stopped
      cases stopped
    · rw [reported] at stopped
      cases stopped
      rw [Nat.zero_add] at errorStep
      subst split
      have first : (before ++ frame :: after).take traceError.step = before := by
        rw [errorStep, List.take_left]
      have firstBad : (before ++ frame :: after).take (traceError.step + 1) =
          before ++ [frame] := by
        rw [errorStep, List.take_length_add_append, List.take_one]
        rfl
      refine ⟨traceError, named, ?_, ?_, ?_⟩
      · simp [errorStep]
      · rw [first]
        exact wellFormed.exists_report ran
      · intro longer start report accepted
        rw [firstBad] at start
        rcases start with ⟨rest, same⟩
        rcases (verifyTrace_eq_ok_iff wellFormed).mp accepted with ⟨_, _, whole, _, _⟩
        rw [← same, List.append_assoc] at whole
        rcases run_append.mp whole with ⟨between, ranBefore, onward⟩
        rw [ran] at ranBefore
        cases ranBefore
        rcases run_cons.mp onward with ⟨_, allowed, _⟩
        rw [stuck] at allowed
        cases allowed

/-- The second frame is out of turn, and the error says where the first has led. -/
theorem trace_verdicts_inquiry :
    verifyTrace .inquiry [.select "client" "ask", .select "client" "ask"] =
      some (.error (.trace
        { step := 1, state := "question", expected := "data client -> server: text",
          received := "select by client: ask" })) ∧
    ∃ report, verifyTrace .inquiry [.select "client" "ask"] = some (.ok report) ∧
      report.finalState = "question" := by
  have verdict : verifyTrace .inquiry [.select "client" "ask", .select "client" "ask"] =
      some (.error (.trace
        { step := 1, state := "question", expected := "data client -> server: text",
          received := "select by client: ask" })) := rfl
  rcases (trace_verdicts .inquiry rfl _).2.2 _ verdict with ⟨_, named, _, before, _⟩
  cases named
  exact ⟨verdict, before⟩

end Conversation

end Colloq
