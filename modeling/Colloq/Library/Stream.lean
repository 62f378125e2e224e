import Colloq.Library.Program
import Colloq.Library.TurnTaking
import Mathlib.Data.List.Flatten

/-!
# Programs on byte streams

Two programs write to and read from a pair of pipes. A pipe is reliable and keeps
the order, but it may be cut at any point, and then what is still in it and what
is written later is lost. So what one side has received is always a prefix of
what the other side has written.

A reader of a stream that arrives in chunks sees only their concatenation. Frames
are preceded by their length, and one stream of frames is read in one way only.
-/

namespace Streaming

open TurnTaking (Side)
open Program (Answered Event Environment Network Path Step)

variable {α η : Type}

/-- What a program asks of its stream. -/
inductive StreamOp (α : Type) where
  | writeAll (items : List α)
  | flush
  | readExact (length : ℕ)
  | close

/-- A read is answered by as many items as were asked for. -/
@[reducible]
def StreamOp.Answer (α η : Type) : StreamOp α → Type
  | .writeAll _ | .flush => Except η Unit
  | .readExact length => Except η (Vector α length)
  | .close => Unit

/-- An operation of a stream with its answer. -/
abbrev StreamEvent (α η : Type) := Event (StreamOp.Answer α η)

/-- The items that are handed to the stream, which a failing stream takes only in part. -/
def StreamEvent.written : StreamEvent α η → List α
  | ⟨.writeAll items, _⟩ => items
  | _ => []

def StreamEvent.received : StreamEvent α η → List α
  | ⟨.readExact _, .ok items⟩ => items.toList
  | _ => []

def written (events : List (StreamEvent α η)) : List α := events.flatMap StreamEvent.written

def received (events : List (StreamEvent α η)) : List α := events.flatMap StreamEvent.received

section Events

variable {events more : List (StreamEvent α η)}

@[simp]
theorem written_nil : written ([] : List (StreamEvent α η)) = [] := rfl

@[simp]
theorem received_nil : received ([] : List (StreamEvent α η)) = [] := rfl

@[simp]
theorem written_append : written (events ++ more) = written events ++ written more :=
  List.flatMap_append

@[simp]
theorem received_append : received (events ++ more) = received events ++ received more :=
  List.flatMap_append

@[simp]
theorem written_writeAll {items : List α} {answer : Except η Unit} :
    written (⟨.writeAll items, answer⟩ :: events) = items ++ written events := rfl

@[simp]
theorem written_flush {answer : Except η Unit} :
    written (⟨.flush, answer⟩ :: events) = written events := rfl

@[simp]
theorem written_readExact {length : ℕ} {answer : Except η (Vector α length)} :
    written (⟨.readExact length, answer⟩ :: events) = written events := rfl

@[simp]
theorem written_close {answer : Unit} :
    written (⟨.close, answer⟩ :: events) = written events := rfl

@[simp]
theorem received_writeAll {items : List α} {answer : Except η Unit} :
    received (⟨.writeAll items, answer⟩ :: events) = received events := rfl

@[simp]
theorem received_flush {answer : Except η Unit} :
    received (⟨.flush, answer⟩ :: events) = received events := rfl

@[simp]
theorem received_readExact {length : ℕ} {items : Vector α length} :
    received (⟨.readExact length, .ok items⟩ :: events) = items.toList ++ received events := rfl

@[simp]
theorem received_readExact_error {length : ℕ} {error : η} :
    received (⟨.readExact length, .error error⟩ :: events) = received events := rfl

@[simp]
theorem received_close {answer : Unit} :
    received (⟨.close, answer⟩ :: events) = received events := rfl

end Events

/-! ## Transcripts -/

/-- What a program has handed to its stream and received from it so far. -/
structure Transcript (α : Type) where
  written : List α := []
  received : List α := []

def Transcript.answer (transcript : Transcript α) (event : StreamEvent α η) : Transcript α where
  written := transcript.written ++ event.written
  received := transcript.received ++ event.received

section Answer

variable {transcript : Transcript α}

@[simp]
theorem Transcript.answer_writeAll {items : List α} {answer : Except η Unit} :
    transcript.answer ⟨.writeAll items, answer⟩ =
      { transcript with written := transcript.written ++ items } := by
  simp [Transcript.answer, StreamEvent.written, StreamEvent.received]

@[simp]
theorem Transcript.answer_flush {answer : Except η Unit} :
    transcript.answer ⟨.flush, answer⟩ = transcript := by
  simp [Transcript.answer, StreamEvent.written, StreamEvent.received]

@[simp]
theorem Transcript.answer_readExact {length : ℕ} {items : Vector α length} :
    transcript.answer (⟨.readExact length, .ok items⟩ : StreamEvent α η) =
      { transcript with received := transcript.received ++ items.toList } := by
  simp [Transcript.answer, StreamEvent.written, StreamEvent.received]

@[simp]
theorem Transcript.answer_readExact_error {length : ℕ} {error : η} :
    transcript.answer (⟨.readExact length, .error error⟩ : StreamEvent α η) = transcript := by
  simp [Transcript.answer, StreamEvent.written, StreamEvent.received]

@[simp]
theorem Transcript.answer_close {answer : Unit} :
    transcript.answer (⟨.close, answer⟩ : StreamEvent α η) = transcript := by
  simp [Transcript.answer, StreamEvent.written, StreamEvent.received]

end Answer

/-- A program calls its stream only where the transcript is as it should be. -/
def Transcribed (during : Transcript α → Prop) :
    Program.Discipline (StreamOp α) (StreamOp.Answer α η) (Transcript α) :=
  fun transcript op after =>
    during transcript ∧ after = fun answer => transcript.answer ⟨op, answer⟩

/-- The transcript at the end of a path. -/
theorem follows_transcribed_path {β : Type} {during : Transcript α → Prop}
    {post : Transcript α → β → Prop}
    {first last : Program (StreamOp α) (StreamOp.Answer α η) β} {transcript : Transcript α}
    {events : List (StreamEvent α η)}
    (follows : Program.Follows (Transcribed during) post transcript first)
    (path : Path first events last) :
    Program.Follows (Transcribed during) post
      { written := transcript.written ++ written events
        received := transcript.received ++ received events } last := by
  induction path generalizing transcript with
  | refl => simpa using follows
  | @call op next answer events last path ih =>
      rcases follows with ⟨_, ⟨_, same⟩, rest⟩
      subst same
      have further := ih (rest answer)
      simpa [Transcript.answer, written, received] using further

/-- The transcript so far goes before what a program adds to it. -/
theorem follows_transcribed_append {β : Type} {during : Transcript α → Prop}
    {post : Transcript α → β → Prop} {program : Program (StreamOp α) (StreamOp.Answer α η) β}
    {transcript : Transcript α} (before : Transcript α)
    (follows : Program.Follows (Transcribed during) post transcript program) :
    Program.Follows (Transcribed fun _ => True)
      (fun whole value => ∃ added, post added value ∧
        whole = ⟨before.written ++ added.written, before.received ++ added.received⟩)
      ⟨before.written ++ transcript.written, before.received ++ transcript.received⟩ program := by
  induction program generalizing transcript with
  | done value => exact ⟨transcript, follows, rfl⟩
  | call op next ih =>
      rcases follows with ⟨_, ⟨_, same⟩, rest⟩
      subst same
      refine ⟨_, ⟨trivial, rfl⟩, ?_⟩
      intro answer
      simpa [Transcript.answer] using ih answer (rest answer)

/-! ## Two programs and the pipes between them -/

/-- One direction of a connection. -/
structure Pipe (α : Type) where
  inFlight : List α := []
  cut : Bool := false

/-- What is written to a pipe that was cut is lost. -/
def Pipe.write (pipe : Pipe α) (items : List α) : Pipe α :=
  if pipe.cut then pipe else { pipe with inFlight := pipe.inFlight ++ items }

/-- The pipes of a connection, each by the side that reads from it. -/
abbrev Pipes (α : Type) := Side → Pipe α

/-- How a connection answers. A write or a read may fail at any time, and cuts the pipe. -/
inductive Answers : Environment Side (Pipes α) (StreamOp α) (StreamOp.Answer α η) where
  | written {pipes : Pipes α} {side : Side} {items : List α} :
      Answers pipes side (.writeAll items) (.ok ())
        (Function.update pipes side.other ((pipes side.other).write items))
  | writeCut {pipes : Pipes α} {side : Side} {items kept : List α} {error : η}
      (begun : kept <+: items) :
      Answers pipes side (.writeAll items) (.error error)
        (Function.update pipes side.other { (pipes side.other).write kept with cut := true })
  | flushed {pipes : Pipes α} {side : Side} {answer : Except η Unit} :
      Answers pipes side .flush answer pipes
  | read {pipes : Pipes α} {side : Side} {length : ℕ} {items : Vector α length} {rest : List α}
      (arrived : (pipes side).inFlight = items.toList ++ rest) :
      Answers pipes side (.readExact length) (.ok items)
        (Function.update pipes side { pipes side with inFlight := rest })
  | readCut {pipes : Pipes α} {side : Side} {length : ℕ} {error : η} :
      Answers pipes side (.readExact length) (.error error)
        (Function.update pipes side { inFlight := [], cut := true })
  | closed {pipes : Pipes α} {side : Side} :
      Answers pipes side .close () fun reader => { pipes reader with cut := true }

/-- Nothing is received that was not written, in the same order, and until a pipe is cut
nothing is lost. -/
def Conserves (pipes : Pipes α) (events : Side → List (StreamEvent α η)) : Prop :=
  ∀ side, received (events side) ++ (pipes side).inFlight <+: written (events side.other) ∧
    ((pipes side).cut = false →
      received (events side) ++ (pipes side).inFlight = written (events side.other))

/-- No answer of the pipes makes an item, loses one or changes their order. -/
theorem Conserves.answers {before after : Pipes α} {events : Side → List (StreamEvent α η)}
    {side : Side} {op : StreamOp α} {answer : op.Answer α η} (conserves : Conserves before events)
    (answered : Answers before side op answer after) :
    Conserves after (Function.update events side (events side ++ [⟨op, answer⟩])) := by
  have own := conserves side
  have others := conserves side.other
  rw [Side.other_other] at others
  rw [Conserves, Side.forall_iff side, Side.other_other]
  have distinct := side.other_ne
  cases answered with
  | @written _ _ items =>
      cases cut : (before side.other).cut with
      | false =>
          have whole := others.2 cut
          simpa [Pipe.write, cut, distinct, distinct.symm, own.1, ← whole] using own.2
      | true =>
          simp only [Pipe.write, cut, Function.update_self, Function.update_of_ne distinct,
            Function.update_of_ne distinct.symm, if_true]
          refine ⟨by simpa using own, ?_, by simp⟩
          simpa using others.1.trans (List.prefix_append _ items)
  | @writeCut _ _ items kept _ begun =>
      cases cut : (before side.other).cut with
      | false =>
          have whole := others.2 cut
          simpa [Pipe.write, cut, distinct, distinct.symm, own.1, ← whole, begun] using own.2
      | true =>
          simp only [Pipe.write, cut, Function.update_self, Function.update_of_ne distinct,
            Function.update_of_ne distinct.symm, if_true]
          refine ⟨by simpa using own, ?_, by simp⟩
          simpa using others.1.trans (List.prefix_append _ items)
  | flushed => simpa [distinct] using ⟨own, others⟩
  | read arrived =>
      rw [arrived] at own
      simpa [distinct, distinct.symm] using ⟨own, others⟩
  | readCut =>
      have start := (List.prefix_append _ _).trans own.1
      simpa [distinct, distinct.symm] using ⟨start, others⟩
  | closed => simpa [distinct] using ⟨own.1, others.1⟩

/-- What a side has received is a prefix of what the other side has written. -/
theorem received_prefix {β : Type} {network last : Network Side (Pipes α) (StreamOp α)
      (StreamOp.Answer α η) β} (fresh : network.environment = fun _ => {})
    (steps : Relation.ReflTransGen (Step Answers) network last) :
    ∃ events : Side → List (StreamEvent α η),
      (∀ side, Path (network.program side) (events side) (last.program side)) ∧
      ∀ side, received (events side) <+: written (events side.other) := by
  have holds : Conserves network.environment fun _ => ([] : List (StreamEvent α η)) := by
    intro side
    simp [fresh]
  rcases Program.paths_of_steps Conserves.answers holds steps with ⟨events, conserves, paths⟩
  refine ⟨events, paths, ?_⟩
  intro side
  exact (List.prefix_append _ _).trans (conserves side).1

/-! ## Runs without a cut -/

section Uncut

/-- The pipes of a connection that was not cut. -/
def flowing (inFlight : Side → List α) : Pipes α := fun reader => { inFlight := inFlight reader }

/-- How a connection answers that is not cut: every write is taken, and a read is answered as soon
as there is enough to read. -/
inductive Flows : Environment Side (Side → List α) (StreamOp α) (StreamOp.Answer α η) where
  | written {inFlight : Side → List α} {side : Side} {items : List α} :
      Flows inFlight side (.writeAll items) (.ok ())
        (Function.update inFlight side.other (inFlight side.other ++ items))
  | flushed {inFlight : Side → List α} {side : Side} : Flows inFlight side .flush (.ok ()) inFlight
  | read {inFlight : Side → List α} {side : Side} {length : ℕ} {items : Vector α length}
      {rest : List α} (arrived : inFlight side = items.toList ++ rest) :
      Flows inFlight side (.readExact length) (.ok items) (Function.update inFlight side rest)

theorem flowing_update {inFlight : Side → List α} {side : Side} {items : List α} :
    flowing (Function.update inFlight side items) =
      Function.update (flowing inFlight) side { inFlight := items } := by
  funext reader
  by_cases same : reader = side
  · subst same
    simp [flowing]
  · simp [flowing, same]

theorem Flows.answers {inFlight later : Side → List α} {side : Side} {op : StreamOp α}
    {answer : op.Answer α η} (flows : Flows inFlight side op answer later) :
    Answers (flowing inFlight) side op answer (flowing later) := by
  cases flows with
  | written =>
      rw [flowing_update]
      exact .written
  | flushed => exact .flushed
  | read arrived =>
      rw [flowing_update]
      exact .read arrived

theorem steps_of_flows {β : Type} {inFlight later : Side → List α}
    {program left : Side → Program (StreamOp α) (StreamOp.Answer α η) β}
    (steps : Relation.ReflTransGen (Step Flows) ⟨inFlight, program⟩ ⟨later, left⟩) :
    Relation.ReflTransGen (Step Answers) ⟨flowing inFlight, program⟩ ⟨flowing later, left⟩ := by
  let real (network : Network Side (Side → List α) (StreamOp α) (StreamOp.Answer α η) β) :
      Network Side (Pipes α) (StreamOp α) (StreamOp.Answer α η) β :=
    ⟨flowing network.environment, network.program⟩
  refine steps.lift real ?_
  intro before after step
  cases step with
  | call calls flows => exact .call calls flows.answers

/-- On a connection that is not cut, the events of a party hand over these items. -/
def Sends (items : List α) (events : List (StreamEvent α η)) : Prop :=
  ∀ side inFlight, Answered Flows side inFlight events
    (Function.update inFlight side.other (inFlight side.other ++ items))

/-- On a connection on which these items have arrived, the events of a party read them. -/
def Receives (items : List α) (events : List (StreamEvent α η)) : Prop :=
  ∀ side inFlight rest, inFlight side = items ++ rest →
    Answered Flows side inFlight events (Function.update inFlight side rest)

theorem sends_nil : Sends [] ([] : List (StreamEvent α η)) := by
  intro side inFlight
  rw [List.append_nil, Function.update_eq_self]
  exact .refl _

theorem sends_writeAll (items : List α) :
    Sends items [(⟨.writeAll items, .ok ()⟩ : StreamEvent α η)] := by
  intro side inFlight
  exact .call .written (.refl _)

theorem sends_flush : Sends [] [(⟨.flush, .ok ()⟩ : StreamEvent α η)] := by
  intro side inFlight
  rw [List.append_nil, Function.update_eq_self]
  exact .call .flushed (.refl _)

theorem Sends.append {items more : List α} {events further : List (StreamEvent α η)}
    (sends : Sends items events) (sendsMore : Sends more further) :
    Sends (items ++ more) (events ++ further) := by
  intro side inFlight
  have second := sendsMore side
    (Function.update inFlight side.other (inFlight side.other ++ items))
  rw [Function.update_self, Function.update_idem, List.append_assoc] at second
  exact (sends side inFlight).trans second

theorem receives_readExact {length : ℕ} (items : Vector α length) :
    Receives items.toList [(⟨.readExact length, .ok items⟩ : StreamEvent α η)] := by
  intro side inFlight rest arrived
  exact .call (.read arrived) (.refl _)

theorem Receives.append {items more : List α} {events further : List (StreamEvent α η)}
    (receives : Receives items events) (receivesMore : Receives more further) :
    Receives (items ++ more) (events ++ further) := by
  intro side inFlight rest arrived
  rw [List.append_assoc] at arrived
  have second := receivesMore side (Function.update inFlight side (more ++ rest)) rest
  rw [Function.update_self, Function.update_idem] at second
  exact (receives side inFlight _ arrived).trans (second rfl)

section Pair

variable {items inFlight others rest : List α} {events : List (StreamEvent α η)}

theorem Sends.left (sends : Sends items events) :
    Answered Flows .left (Side.pair inFlight others) events
      (Side.pair inFlight (others ++ items)) := by
  simpa [Side.other] using sends .left (Side.pair inFlight others)

theorem Sends.right (sends : Sends items events) :
    Answered Flows .right (Side.pair inFlight others) events
      (Side.pair (inFlight ++ items) others) := by
  simpa [Side.other] using sends .right (Side.pair inFlight others)

theorem Receives.left (receives : Receives items events) :
    Answered Flows .left (Side.pair (items ++ rest) others) events (Side.pair rest others) := by
  simpa using receives .left (Side.pair (items ++ rest) others) rest rfl

theorem Receives.right (receives : Receives items events) :
    Answered Flows .right (Side.pair others (items ++ rest)) events (Side.pair others rest) := by
  simpa using receives .right (Side.pair others (items ++ rest)) rest rfl

end Pair

end Uncut

/-! ## Streams that arrive in chunks -/

/-- Read from one chunk after the other, until there are enough items or the stream ends. -/
def fill : ℕ → List (List α) → List α × List (List α)
  | _, [] => ([], [])
  | length, chunk :: chunks =>
    if length ≤ chunk.length then (chunk.take length, chunk.drop length :: chunks)
    else
      let (items, rest) := fill (length - chunk.length) chunks
      (chunk ++ items, rest)

theorem fill_eq (length : ℕ) (chunks : List (List α)) :
    (fill length chunks).1 = chunks.flatten.take length ∧
      (fill length chunks).2.flatten = chunks.flatten.drop length := by
  induction chunks generalizing length with
  | nil => simp [fill]
  | cons chunk chunks ih =>
      rw [fill, List.flatten_cons]
      split_ifs with enough
      · simp [List.take_append, List.drop_append, Nat.sub_eq_zero_of_le enough]
      · have more : chunk.length ≤ length := by omega
        rcases ih (length - chunk.length) with ⟨items, rest⟩
        simp [List.take_append, List.drop_append, List.take_of_length_le more,
          List.drop_of_length_le more, items, rest]

/-- A read fails if the stream ends before it has filled its buffer. -/
def readExact (length : ℕ) (ended : η) (chunks : List (List α)) :
    Except η (Vector α length) × List (List α) :=
  let (items, rest) := fill length chunks
  if filled : items.length = length then (.ok ⟨items.toArray, filled⟩, rest)
  else (.error ended, rest)

/-- How a connection answers whose incoming stream is given in chunks. -/
def answerChunks (ended : η) (chunks : List (List α)) :
    (op : StreamOp α) → op.Answer α η × List (List α)
  | .writeAll _ => (.ok (), chunks)
  | .flush => (.ok (), chunks)
  | .readExact length => readExact length ended chunks
  | .close => ((), chunks)

theorem readExact_ok {length : ℕ} {ended : η} {chunks : List (List α)} {items rest : List α}
    (stream : chunks.flatten = items ++ rest) (filled : items.length = length) :
    ∃ chunks', readExact length ended chunks = (.ok ⟨items.toArray, filled⟩, chunks') ∧
      chunks'.flatten = rest := by
  rcases fill_eq length chunks with ⟨read, left⟩
  have taken : chunks.flatten.take length = items := by
    rw [stream, ← filled, List.take_left]
  rw [taken] at read
  refine ⟨(fill length chunks).2, ?_, ?_⟩
  · simp [readExact, read, filled]
  · rw [left, stream, ← filled, List.drop_left]

theorem readExact_error {length : ℕ} {ended : η} {chunks : List (List α)}
    (short : chunks.flatten.length < length) :
    ∃ chunks', readExact length ended chunks = (.error ended, chunks') ∧ chunks'.flatten = [] := by
  rcases fill_eq length chunks with ⟨read, left⟩
  refine ⟨(fill length chunks).2, ?_, ?_⟩
  · have missing : (fill length chunks).1.length ≠ length := by
      rw [read, List.length_take]
      omega
    simp [readExact, missing]
  · rw [left]
    exact List.drop_of_length_le (by omega)

/-! ## Frames -/

/-- `u32::to_be_bytes` -/
def toBeBytes (value : UInt32) : List UInt8 :=
  [(value >>> 24).toUInt8, (value >>> 16).toUInt8, (value >>> 8).toUInt8, value.toUInt8]

/-- `u32::from_be_bytes`, as a length. -/
def fromBeBytes (bytes : Vector UInt8 4) : ℕ :=
  bytes.toList.foldl (fun value byte => 256 * value + byte.toNat) 0

@[simp]
theorem length_toBeBytes (value : UInt32) : (toBeBytes value).length = 4 := rfl

/-- The bytes of a frame, behind their length. -/
def frame (bytes : List UInt8) : List UInt8 := toBeBytes (.ofNat bytes.length) ++ bytes

theorem fromBeBytes_toBeBytes {length : ℕ} (bound : length < UInt32.size) :
    fromBeBytes ⟨(toBeBytes (.ofNat length)).toArray, rfl⟩ = length := by
  have value : (UInt32.ofNat length).toNat = length := UInt32.toNat_ofNat_of_lt' bound
  rw [UInt32.size] at bound
  simp [fromBeBytes, toBeBytes, value, Nat.shiftRight_eq_div_pow]
  omega

theorem fromBeBytes_lt (bytes : Vector UInt8 4) : fromBeBytes bytes < UInt32.size := by
  rcases bytes with ⟨⟨items⟩, filled⟩
  rcases items with _ | ⟨a, _ | ⟨b, _ | ⟨c, _ | ⟨d, _ | ⟨_, _⟩⟩⟩⟩⟩ <;> simp at filled
  have first := a.toNat_lt
  have second := b.toNat_lt
  have third := c.toNat_lt
  have fourth := d.toNat_lt
  simp [fromBeBytes, UInt32.size]
  omega

theorem toBeBytes_fromBeBytes (bytes : Vector UInt8 4) :
    toBeBytes (.ofNat (fromBeBytes bytes)) = bytes.toList := by
  have value : (UInt32.ofNat (fromBeBytes bytes)).toNat = fromBeBytes bytes :=
    UInt32.toNat_ofNat_of_lt' (fromBeBytes_lt bytes)
  rcases bytes with ⟨⟨items⟩, filled⟩
  rcases items with _ | ⟨a, _ | ⟨b, _ | ⟨c, _ | ⟨d, _ | ⟨_, _⟩⟩⟩⟩⟩ <;> simp at filled
  have first := a.toNat_lt
  have second := b.toNat_lt
  have third := c.toNat_lt
  have fourth := d.toNat_lt
  simp only [toBeBytes, Vector.toList_mk, List.cons.injEq, and_true]
  simp only [← UInt8.toNat_inj, UInt32.toNat_toUInt8, UInt32.toNat_shiftRight, value]
  simp [fromBeBytes, Nat.shiftRight_eq_div_pow]
  omega

theorem toBeBytes_injective {one two : ℕ} (oneBound : one < UInt32.size)
    (twoBound : two < UInt32.size) (same : toBeBytes (.ofNat one) = toBeBytes (.ofNat two)) :
    one = two := by
  rw [← fromBeBytes_toBeBytes oneBound, ← fromBeBytes_toBeBytes twoBound]
  simp only [same]

/-- Two streams that begin with a frame, and agree as far as both go, begin with the same one. -/
theorem same_frame {one two more rest : List UInt8} (oneBound : one.length < UInt32.size)
    (twoBound : two.length < UInt32.size) (starts : frame one ++ more <+: frame two ++ rest) :
    one = two ∧ more <+: rest := by
  rcases starts with ⟨tail, same⟩
  simp only [frame, List.append_assoc] at same
  rcases List.append_inj same rfl with ⟨lengths, same⟩
  rcases List.append_inj same (toBeBytes_injective oneBound twoBound lengths) with ⟨bytes, same⟩
  exact ⟨bytes, tail, same⟩

theorem frame_ne_nil (bytes : List UInt8) : frame bytes ≠ [] := by
  simp [frame, toBeBytes]

/-- A stream of frames that begins with others carries them first. -/
theorem prefix_of_frames {one two : List (List UInt8)}
    (oneBound : ∀ bytes ∈ one, bytes.length < UInt32.size)
    (twoBound : ∀ bytes ∈ two, bytes.length < UInt32.size)
    (starts : one.flatMap frame <+: two.flatMap frame) : one <+: two := by
  induction one generalizing two with
  | nil => exact List.nil_prefix
  | cons first one ih =>
      rw [List.forall_mem_cons] at oneBound
      cases two with
      | nil => simp [frame_ne_nil] at starts
      | cons second two =>
          rw [List.forall_mem_cons] at twoBound
          rcases same_frame oneBound.1 twoBound.1 starts with ⟨same, rest⟩
          subst same
          simpa using ih oneBound.2 twoBound.2 rest

end Streaming
