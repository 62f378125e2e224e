import Colloq.Extent
import Colloq.Handshake
import Colloq.Library.Schedule
import Colloq.Peers

/-!
# The agreement of two parties

Both parties of a connection establish a session. The connection keeps the order of
the bytes, but may be cut at any point. A party that returns `Ok` has agreed with its
peer on the session, and the peer has verified its preface.
-/

namespace Colloq

open Program (Path Step steps_left steps_right)
open Program.Stateful (path_bind path_tryCatch start_bind_of_done start_ofExcept)
open Streaming
open TurnTaking (Side)

variable {crates : Crates} {prepared : Preparation} {encoded : List UInt8}

/-- A preface is read as it was written. -/
def Crates.RereadsPrefaces (crates : Crates) : Prop :=
  ∀ preface : SessionPreface, ∃ document,
    crates.fromSlice (crates.toVec preface.toJson) = .ok document ∧
      SessionPreface.fromJson document = .ok preface

theorem WireEncoding.fromJson_asStr (encoding : WireEncoding) :
    WireEncoding.fromJson (.string encoding.asStr) = .ok encoding := by
  cases encoding <;> rfl

theorem SessionPreface.fromJson_toJson (preface : SessionPreface) :
    SessionPreface.fromJson preface.toJson = .ok preface := by
  rcases preface with ⟨_, _, _, _, _, wire, endpointIdentity, channelBinding⟩
  have present : ∀ text,
      Serde.readNullable Serde.readString (.string text) = .ok (some text) := fun _ => rfl
  rcases endpointIdentity with _ | endpointIdentity
  all_goals
    rcases channelBinding with _ | channelBinding
  all_goals
    simp [fromJson, toJson, skipAbsent, Serde.readStruct_object, WireEncoding.fromJson_asStr,
      present, bind, Except.bind, pure, Except.pure]

theorem SessionPreface.plain_toJson (preface : SessionPreface) : preface.toJson.Plain 127 := by
  rcases preface with ⟨_, _, _, _, _, _, endpointIdentity, channelBinding⟩
  cases endpointIdentity <;> cases channelBinding <;> simp [toJson, skipAbsent]

theorem Crates.ReadsBack.rereadsPrefaces {crates : Crates} (reads : crates.ReadsBack) :
    crates.RereadsPrefaces := by
  intro preface
  exact ⟨preface.toJson, reads _ preface.plain_toJson, preface.fromJson_toJson⟩

/-! ## Agreement -/

/-- One party, with the arguments of its call. -/
structure SessionParty where
  transport : NetworkTransport
  plan : PreparedPlan
  localRole : String
  peerRole : String

namespace SessionParty

/-- A party that is at some point of its handshake. -/
abbrev Running := Program (StreamOp UInt8) (StreamOp.Answer UInt8 StreamError)
  (Except RuntimeError SessionPreface × NetworkTransport)

def prepare (party : SessionParty) : Except RuntimeError Preparation :=
  party.transport.prepare party.plan party.localRole party.peerRole

def program (crates : Crates) (party : SessionParty) : Running :=
  (NetworkTransport.establishSession crates party.plan party.localRole party.peerRole).start
    party.transport

/-- Both parties mean the same session. -/
structure Agrees (own peer : SessionParty) : Prop where
  conversation_eq : own.plan.conversation = peer.plan.conversation
  conversationIdentity_eq : own.plan.conversationIdentity = peer.plan.conversationIdentity
  planIdentity_eq : own.plan.planIdentity = peer.plan.planIdentity
  encoding_eq : own.transport.codec.encoding = peer.transport.codec.encoding
  localRole_eq : own.localRole = peer.peerRole
  peerRole_eq : own.peerRole = peer.localRole

/-- The party has received this preface, found nothing wrong with it, and gone on from there. -/
def HasVerified (crates : Crates) (party : SessionParty) (peer : SessionPreface) (left : Running) :
    Prop :=
  ∃ prepared before after, party.prepare = .ok prepared ∧
    received before = frame (crates.toVec peer.toJson) ∧ prepared.verify peer = .ok () ∧
    Path (party.program crates) before
      ((party.transport.kind.acceptPeer peer).start party.transport) ∧
    Path ((party.transport.kind.acceptPeer peer).start party.transport) after left

variable {party peer : SessionParty}

theorem program_eq_done {error : RuntimeError} (failed : party.prepare = .error error) :
    party.program crates = .done (.error error, party.transport) := by
  rw [prepare] at failed
  rw [program, NetworkTransport.start_establishSession, failed]

theorem program_eq_exchange (made : party.prepare = .ok prepared) :
    party.program crates =
      (party.transport.kind.exchangePrefaces crates prepared.own prepared.verify).start
        party.transport := by
  rw [prepare] at made
  rw [program, NetworkTransport.start_establishSession, made]

/-- A party that has called its stream has written its preface, or is about to. -/
theorem exists_progress {left : Running}
    {events : List (StreamEvent UInt8 StreamError)}
    (path : Path (party.program crates) events left)
    (started : events ≠ [] ∨ ∃ value after, left = .done (.ok value, after)) :
    ∃ prepared encoded, party.prepare = .ok prepared ∧
      encodeSessionPreface crates prepared.own = .ok encoded ∧
      Progress crates party.transport prepared encoded events left := by
  have unstarted : ∀ error, left ≠ .done (.error error, party.transport) ∨ events ≠ [] := by
    intro error
    rcases started with started | ⟨value, after, ended⟩
    · exact .inr started
    · left
      simp [ended]
  cases made : party.prepare with
  | error error =>
      rw [program_eq_done made] at path
      cases path
      rcases unstarted error with ended | none
      · exact (ended rfl).elim
      · exact (none rfl).elim
  | ok prepared =>
      rw [program_eq_exchange made] at path
      cases encodes : encodeSessionPreface crates prepared.own with
      | ok encoded => exact ⟨prepared, encoded, rfl, encodes, progress_of_path encodes path⟩
      | error error =>
          rw [NetworkKind.exchangePrefaces, encodes] at path
          cases path
          rcases unstarted error with ended | none
          · exact (ended rfl).elim
          · exact (none rfl).elim

/-- Parties that have verified each other's preface agree. -/
theorem agrees_of_verify {own other : Preparation} (made : party.prepare = .ok own)
    (peerMade : peer.prepare = .ok other) (verified : own.verify other.own = .ok ())
    (peerVerified : other.verify own.own = .ok ()) : party.Agrees peer := by
  have states := NetworkTransport.states_of_prepare peerMade
  have expected := NetworkTransport.states_of_verify made verified
  have ownStates := NetworkTransport.states_of_prepare made
  have ownExpected := NetworkTransport.states_of_verify peerMade peerVerified
  exact {
    conversation_eq := expected.conversation_eq.symm.trans states.conversation_eq
    conversationIdentity_eq :=
      expected.conversationIdentity_eq.symm.trans states.conversationIdentity_eq
    planIdentity_eq := expected.planIdentity_eq.symm.trans states.planIdentity_eq
    encoding_eq := expected.wire_eq.symm.trans states.wire_eq
    localRole_eq := ownStates.role_eq.symm.trans ownExpected.role_eq
    peerRole_eq := expected.role_eq.symm.trans states.role_eq }

end SessionParty

/-- A preface that was decoded from what a party has written is the one of that party. -/
theorem verify_of_decodePeer (rereads : crates.RereadsPrefaces)
    (encodes : encodeSessionPreface crates prepared.own = .ok encoded) {peer : SessionPreface}
    {verify : SessionPreface → Except RuntimeError Unit}
    (decoded : NetworkKind.decodePeer crates verify encoded = .ok peer) :
    peer = prepared.own ∧ verify prepared.own = .ok () := by
  simp only [NetworkKind.decodePeer, decodeSessionPreface, Checked.bind_eq_ok_iff] at decoded
  rcases decoded with ⟨read, ⟨_, _, document, parsed, reread⟩, _, verified, same⟩
  rcases rereads prepared.own with ⟨written, parses, rereadOwn⟩
  rw [(length_lt_of_encodeSessionPreface encodes).2, parses] at parsed
  cases parsed
  rw [rereadOwn] at reread
  cases reread
  cases same
  exact ⟨rfl, verified⟩

/-- Two parties on a new connection. -/
def handshake (crates : Crates) (party : Side → SessionParty) : Program.Network Side (Pipes UInt8)
    (StreamOp UInt8) (StreamOp.Answer UInt8 StreamError)
    (Except RuntimeError SessionPreface × NetworkTransport) where
  environment _ := {}
  program side := (party side).program crates

/-- If a party returns `Ok`, both mean the same session, and the other one has verified its
preface and does not return a mismatch. -/
theorem handshake_agreement (crates : Crates) (rereads : crates.RereadsPrefaces)
    (party : Side → SessionParty)
    (last : Program.Network Side (Pipes UInt8) (StreamOp UInt8) (StreamOp.Answer UInt8 StreamError)
      (Except RuntimeError SessionPreface × NetworkTransport))
    (steps : Relation.ReflTransGen (Step Answers) (handshake crates party) last) (side : Side)
    (peer : SessionPreface) (after : NetworkTransport)
    (returned : last.program side = .done (.ok peer, after)) :
    after.sessionEstablished = true ∧ (party side).Agrees (party side.other) ∧
    (∃ prepared, (party side).prepare = .ok prepared ∧
      (party side.other).HasVerified crates prepared.own (last.program side.other)) ∧
    ∀ error final, last.program side.other = .done (.error error, final) →
      ¬error.IsSessionMismatch := by
  rcases received_prefix rfl steps with ⟨events, paths, heard⟩
  rcases SessionParty.exists_progress (paths side) (.inr ⟨peer, after, returned⟩) with
    ⟨own, encoded, made, encodes, progress⟩
  cases progress with
  | refusing told refused => exact (refused peer after returned).elim
  | @accepting ownPeer peerEncoded before rest same told hears short verified path onward =>
  rw [returned] at onward
  rcases (talks_acceptPeer _ ownPeer).at_done onward with ⟨_, _, ended⟩
  rcases ended peer rfl with ⟨verdict, kept⟩
  simp only at verdict
  -- The peer has written its preface and an acceptance.
  have begun : frame peerEncoded ++ [sessionAccepted] <+: written (events side.other) := by
    have begun := heard side
    rwa [same, received_append, hears, verdict] at begun
  have peerShort := lt_size_of_le_maxSessionPrefaceBytes short
  have started : events side.other ≠ [] := by
    intro none
    rw [none] at begun
    simp [frame] at begun
  rcases SessionParty.exists_progress (paths side.other) (.inl started) with
    ⟨other, otherEncoded, otherMade, otherEncodes, otherProgress⟩
  have otherShort := (length_lt_of_encodeSessionPreface otherEncodes).1
  cases otherProgress with
  | refusing told refused =>
      have verdict := (same_frame peerShort otherShort (begun.trans told)).2
      simp [sessionAccepted, sessionRejected] at verdict
  | @accepting otherPeer otherHeard otherBefore otherRest otherSame otherTold otherHears
      otherLimited otherVerified otherPath otherOnward =>
  rw [otherSame, written_append, otherTold] at begun
  have otherBegun : frame otherHeard ++ received otherRest <+: frame encoded ++ written rest := by
    have otherBegun := heard side.other
    rwa [Side.other_other, same, otherSame, received_append, otherHears, written_append, told]
      at otherBegun
  have otherHeardShort := lt_size_of_le_maxSessionPrefaceBytes otherLimited
  have heardAll := (same_frame peerShort otherShort begun).1
  have otherHeardAll := (same_frame otherHeardShort
    (length_lt_of_encodeSessionPreface encodes).1 otherBegun).1
  subst heardAll otherHeardAll
  rcases verify_of_decodePeer rereads otherEncodes verified with ⟨_, passed⟩
  rcases verify_of_decodePeer rereads encodes otherVerified with ⟨same, otherPassed⟩
  subst same
  refine ⟨?_, SessionParty.agrees_of_verify made otherMade passed otherPassed, ⟨own, made, other,
    otherBefore, otherRest, otherMade, ?_, otherPassed, ?_, otherOnward⟩, ?_⟩
  · rw [kept]
  · rw [otherHears, (length_lt_of_encodeSessionPreface encodes).2]
  · rw [SessionParty.program_eq_exchange otherMade]
    exact otherPath
  · intro error final failed
    rw [failed] at otherOnward
    exact ((talks_acceptPeer _ _).at_done otherOnward).2.1 error rfl

/-! ## A handshake that completes -/

section Complete

variable {transport : NetworkTransport} (kind : NetworkKind)

theorem path_flush_sends : ∃ events, Path (kind.flush.start transport) events
    (.done (.ok (), transport)) ∧ Sends [] events := by
  cases kind with
  | tcp => exact ⟨[⟨.flush, .ok ()⟩], .call (.refl _), sends_flush⟩
  | quic | iroh => exact ⟨[], .refl _, sends_nil⟩

theorem path_writeFrame_sends (tooLarge : ℕ → ℕ → RuntimeError) {bytes : List UInt8}
    (short : bytes.length < UInt32.size) :
    ∃ events, Path ((kind.writeFrame tooLarge bytes).start transport) events
      (.done (.ok (), transport)) ∧ Sends (frame bytes) events := by
  have fits : Checked.ensure (bytes.length < UInt32.size)
      (tooLarge bytes.length (UInt32.size - 1)) = .ok () := Checked.ensure_eq_ok_iff.mpr short
  rcases @path_flush_sends transport kind with ⟨flushed, path, nothing⟩
  rw [NetworkKind.writeFrame, fits, start_bind_of_done (start_ofExcept _)]
  refine ⟨_, path_bind (NetworkTransport.path_writeAll _ _)
    (path_bind (NetworkTransport.path_writeAll _ _) path), ?_⟩
  have sends := (@sends_writeAll _ StreamError (toBeBytes (.ofNat bytes.length))).append
    ((sends_writeAll bytes).append nothing)
  rw [List.append_nil] at sends
  exact sends

theorem path_readExact {length : ℕ} (items : Vector UInt8 length) :
    Path ((kind.readExact length).start transport) [⟨.readExact length, .ok items⟩]
      (.done (.ok items, transport)) :=
  .call (.refl _)

theorem path_readFrame_receives (tooLarge : ℕ → ℕ → RuntimeError) {limit : ℕ}
    {onTooLarge : Networking Unit} {bytes : List UInt8} (short : bytes.length < UInt32.size)
    (limited : bytes.length ≤ limit) :
    ∃ events, Path ((kind.readFrame tooLarge limit onTooLarge).start transport) events
      (.done (.ok bytes, transport)) ∧ Receives (frame bytes) events := by
  let length : Vector UInt8 4 := ⟨(toBeBytes (.ofNat bytes.length)).toArray, rfl⟩
  have declared : fromBeBytes length = bytes.length := fromBeBytes_toBeBytes short
  let content : Vector UInt8 (fromBeBytes length) := ⟨bytes.toArray, by simp [declared]⟩
  refine ⟨[⟨.readExact 4, .ok length⟩, ⟨.readExact _, .ok content⟩], ?_, ?_⟩
  · rw [NetworkKind.readFrame]
    apply path_bind (path_readExact kind length)
    have allowed : ¬fromBeBytes length > limit := by
      rw [declared]
      exact Nat.not_lt.mpr limited
    rw [if_neg allowed]
    exact path_bind (path_readExact kind content) (.refl _)
  · exact (receives_readExact length).append (receives_readExact content)

theorem decodePeer_encodeSessionPreface (rereads : crates.RereadsPrefaces)
    (encodes : encodeSessionPreface crates prepared.own = .ok encoded)
    {verify : SessionPreface → Except RuntimeError Unit} (verified : verify prepared.own = .ok ()) :
    NetworkKind.decodePeer crates verify encoded = .ok prepared.own := by
  simp only [encodeSessionPreface, Checked.check_bind_eq_ok_iff] at encodes
  rcases encodes with ⟨short, same⟩
  cases same
  rcases rereads prepared.own with ⟨document, parses, reread⟩
  simp [NetworkKind.decodePeer, decodeSessionPreface, short, parses, reread, verified, bind,
    Except.bind, Except.mapError, pure, Except.pure]

/-- The parts of a handshake that completes, each with what is handed over or read in it. -/
def Completes {α : Type} (own peer : List UInt8) (first last : Program (StreamOp UInt8)
    (StreamOp.Answer UInt8 StreamError) α) : Prop :=
  ∃ telling hearing judging concluding,
    Path first (telling ++ (hearing ++ (judging ++ concluding))) last ∧
    Sends (frame own) telling ∧ Receives (frame peer) hearing ∧
    Sends [sessionAccepted] judging ∧ Receives [sessionAccepted] concluding

/-- What a party tells and hears when its peer and it accept each other. -/
theorem exists_complete_path (rereads : crates.RereadsPrefaces) {other : Preparation}
    {otherEncoded : List UInt8} (encodes : encodeSessionPreface crates prepared.own = .ok encoded)
    (otherEncodes : encodeSessionPreface crates other.own = .ok otherEncoded)
    (verified : prepared.verify other.own = .ok ()) :
    Completes encoded otherEncoded
      ((kind.exchangePrefaces crates prepared.own prepared.verify).start transport)
      (.done (.ok other.own, { transport with sessionEstablished := true })) := by
  have short := (length_lt_of_encodeSessionPreface encodes).1
  have otherShort := (length_lt_of_encodeSessionPreface otherEncodes).1
  have limited : otherEncoded.length ≤ maxSessionPrefaceBytes := by
    simp only [encodeSessionPreface, Checked.check_bind_eq_ok_iff, Checked.ensure_eq_ok_iff]
      at otherEncodes
    rcases otherEncodes with ⟨limited, same⟩
    cases same
    exact limited
  let verdict : Vector UInt8 1 := ⟨#[sessionAccepted], rfl⟩
  rcases @path_writeFrame_sends transport kind .sessionPrefaceTooLarge _ short with
    ⟨telling, tells, told⟩
  rcases @path_readFrame_receives transport kind .sessionPrefaceTooLarge maxSessionPrefaceBytes
    kind.abortOversized _ otherShort limited with ⟨hearing, hears, heard⟩
  rcases @path_flush_sends transport kind with ⟨flushed, flushes, nothing⟩
  have accepts : Path ((kind.acceptPeer other.own).start transport)
      ((⟨.writeAll [sessionAccepted], .ok ()⟩ :: flushed) ++ [⟨.readExact 1, .ok verdict⟩])
      (.done (.ok other.own, { transport with sessionEstablished := true })) := by
    have exchanges : Path (kind.statusExchange.start transport)
        ((⟨.writeAll [sessionAccepted], .ok ()⟩ :: flushed) ++ [⟨.readExact 1, .ok verdict⟩])
        (.done (.ok sessionAccepted, transport)) := by
      apply path_bind (NetworkTransport.path_writeAll _ _)
      apply path_bind flushes
      exact path_bind (path_readExact kind verdict) (.refl _)
    rw [NetworkKind.acceptPeer, ← List.append_nil (_ ++ _)]
    apply path_bind (path_tryCatch exchanges)
    rw [if_neg (not_not.mpr rfl)]
    exact .refl _
  refine ⟨telling, hearing, ⟨.writeAll [sessionAccepted], .ok ()⟩ :: flushed,
    [⟨.readExact 1, .ok verdict⟩], ?_, told, heard, ?_, receives_readExact verdict⟩
  · rw [NetworkKind.exchangePrefaces, encodes, start_bind_of_done (start_ofExcept _)]
    apply path_bind tells
    apply path_bind hears
    rw [decodePeer_encodeSessionPreface rereads otherEncodes verified]
    exact accepts
  · exact (sends_writeAll [sessionAccepted]).append nothing

end Complete

/-- If both parties complete on the bytes of the other one, some schedule runs both to their ends.
-/
theorem steps_of_completes {α : Type} {encoded : Side → List UInt8}
    {first last : Side → Program (StreamOp UInt8) (StreamOp.Answer UInt8 StreamError) α}
    (completes : ∀ side, Completes (encoded side) (encoded side.other) (first side) (last side)) :
    Relation.ReflTransGen (Step Flows) ⟨Side.pair [] [], first⟩ ⟨Side.pair [] [], last⟩ := by
  have halves (program : Side → Program (StreamOp UInt8) (StreamOp.Answer UInt8 StreamError) α) :
      program = Side.pair (program .left) (program .right) := by
    funext side
    cases side <;> rfl
  rw [halves first, halves last]
  rcases completes .left with ⟨telling, hearing, judging, concluding, path, told, heard, judged,
    concluded⟩
  rcases completes .right with ⟨peerTelling, peerHearing, peerJudging, peerConcluding, peerPath,
    peerTold, peerHeard, peerJudged, peerConcluded⟩
  rcases path.split with ⟨_, tells, path⟩
  rcases path.split with ⟨_, hears, path⟩
  rcases path.split with ⟨_, judges, concludes⟩
  rcases peerPath.split with ⟨_, peerTells, peerPath⟩
  rcases peerPath.split with ⟨_, peerHears, peerPath⟩
  rcases peerPath.split with ⟨_, peerJudges, peerConcludes⟩
  apply (steps_left tells told.left).trans
  apply (steps_right peerTells peerTold.right).trans
  rw [List.nil_append, ← List.append_nil (frame (encoded .right)), List.nil_append]
  apply (steps_left hears heard.left).trans
  apply (steps_left judges judged.left).trans
  apply (steps_right peerHears peerHeard.right).trans
  apply (steps_right peerJudges peerJudged.right).trans
  rw [List.nil_append]
  apply (steps_left concludes (@Receives.left _ _ _ _ [] _ concluded)).trans
  exact steps_right peerConcludes (@Receives.right _ _ _ _ [] _ peerConcluded)

/-- Parties that can verify each other complete their handshake on a connection without a cut. -/
theorem handshake_completes (rereads : crates.RereadsPrefaces) (party : Side → SessionParty)
    {own : Side → Preparation} {encoded : Side → List UInt8}
    (made : ∀ side, (party side).prepare = .ok (own side))
    (encodes : ∀ side, encodeSessionPreface crates (own side).own = .ok (encoded side))
    (verified : ∀ side, (own side).verify (own side.other).own = .ok ()) :
    ∃ last, Relation.ReflTransGen (Step Answers) (handshake crates party) last ∧
      ∀ side, last.program side = .done (.ok (own side.other).own,
        { (party side).transport with sessionEstablished := true }) := by
  have start : handshake crates party =
      ⟨flowing (Side.pair [] []), fun side => (party side).program crates⟩ := by
    rw [handshake, Program.Network.mk.injEq]
    exact ⟨by funext side; cases side <;> rfl, rfl⟩
  rw [start]
  refine ⟨_, steps_of_flows (@steps_of_completes _ encoded _ _ ?_), fun side => rfl⟩
  intro side
  rw [SessionParty.program_eq_exchange (made side)]
  exact exists_complete_path _ rereads (encodes side) (encodes side.other) (verified side)

/-- No preface without long names is too large. -/
theorem encodeSessionPreface_of_extent (concise : crates.Concise) {preface : SessionPreface}
    (small : preface.toJson.extent ≤ 2700) :
    encodeSessionPreface crates preface = .ok (crates.toVec preface.toJson) := by
  have bytes := concise preface.toJson
  have fits : (crates.toVec preface.toJson).length ≤ maxSessionPrefaceBytes := by
    rw [maxSessionPrefaceBytes]
    omega
  simp [encodeSessionPreface, Checked.ensure_eq_ok_iff.mpr fits, bind, Except.bind, pure,
    Except.pure]

theorem SessionPreface.extent_toJson {preface : SessionPreface}
    (unbound : preface.endpointIdentity = none ∧ preface.channelBinding = none) :
    preface.toJson.extent = preface.colloqSession.length + preface.conversation.length +
      preface.conversationIdentity.length + preface.planIdentity.length + preface.role.length +
      preface.wire.asStr.length + 87 := by
  have keys : "colloq_session".length = 14 ∧ "conversation".length = 12 ∧
      "conversation_identity".length = 21 ∧ "plan_identity".length = 13 ∧ "role".length = 4 ∧
      "wire".length = 4 := ⟨rfl, rfl, rfl, rfl, rfl, rfl⟩
  simp [toJson, skipAbsent, Json.extent, Json.extentMembers, keys, unbound]
  omega

section Inquiry

/-- The two sides of the inquiry over TCP. -/
def inquiryParty (side : Side) : SessionParty where
  transport := { kind := .tcp, codec := .reference }
  plan := inquiryPlan
  localRole := inquiryRole side
  peerRole := inquiryRole side.other

def inquiryPreface (side : Side) : SessionPreface where
  colloqSession := sessionFormat
  conversation := "inquiry"
  conversationIdentity := inquiryPlan.conversationIdentity
  planIdentity := inquiryPlan.planIdentity
  role := inquiryRole side
  wire := .reference
  endpointIdentity := none
  channelBinding := none

def inquiryPreparation (side : Side) : Preparation where
  own := inquiryPreface side
  verify peer := peer.verifyPeer inquiryPlan (inquiryRole side.other) .reference

theorem isSome_endpoint_inquiryPlan (side : Side) :
    (inquiryPlan.endpoint (inquiryRole side)).isSome = true := by
  cases side <;> rfl

theorem prepare_inquiryParty (side : Side) :
    (inquiryParty side).prepare = .ok (inquiryPreparation side) := by
  have known := isSome_endpoint_inquiryPlan
  have distinct : inquiryRole side ≠ inquiryRole side.other := by
    cases side <;> simp [inquiryRole, Side.other]
  have own : localSessionPreface .reference inquiryPlan (inquiryRole side)
      (inquiryRole side.other) = .ok (inquiryPreface side) := by
    simp only [localSessionPreface, SessionPreface.forPlan, Checked.check_bind_eq_ok_iff,
      Checked.ensure_eq_ok_iff]
    exact ⟨rfl, known _, distinct, known side, rfl⟩
  simp only [SessionParty.prepare, NetworkTransport.prepare, inquiryParty, own]
  rfl

theorem verify_inquiryPreparation (side : Side) :
    (inquiryPreparation side).verify (inquiryPreface side.other) = .ok () := by
  simp only [inquiryPreparation, SessionPreface.verifyPeer, Checked.check_bind_eq_ok_iff,
    requireSessionField_eq_ok_iff, Checked.ensure_eq_ok_iff]
  exact ⟨isSome_endpoint_inquiryPlan _, rfl, rfl, rfl, rfl, rfl, rfl⟩

theorem encodes_inquiryPreface (side : Side) :
    encodeSessionPreface .reference (inquiryPreface side) =
      .ok (Crates.reference.toVec (inquiryPreface side).toJson) := by
  apply encodeSessionPreface_of_extent Crates.reference_concise
  have identity : inquiryPlan.conversationIdentity.length = 71 := length_sha256Identity _ _
  have planIdentity : inquiryPlan.planIdentity.length = 71 := length_sha256Identity _ _
  have role : (inquiryRole side).length = 6 := by cases side <;> rfl
  have texts : sessionFormat.length = 5 ∧ "inquiry".length = 7 ∧
      WireEncoding.reference.asStr.length = 9 := ⟨rfl, rfl, rfl⟩
  rw [SessionPreface.extent_toJson ⟨rfl, rfl⟩]
  simp only [inquiryPreface, identity, planIdentity, role, texts]
  omega

theorem handshake_agreement_inquiry :
    ∃ last peer after,
      Relation.ReflTransGen (Step Answers) (handshake .reference inquiryParty) last ∧
      last.program .left = .done (.ok peer, after) ∧
      after.sessionEstablished = true ∧ (inquiryParty .left).Agrees (inquiryParty .right) ∧
      (∃ prepared, (inquiryParty .left).prepare = .ok prepared ∧
        (inquiryParty .right).HasVerified .reference prepared.own (last.program .right)) ∧
      ∀ error final, last.program .right = .done (.error error, final) →
        ¬error.IsSessionMismatch := by
  have rereads := Crates.reference_lossless.readsBack.rereadsPrefaces
  rcases handshake_completes rereads inquiryParty prepare_inquiryParty encodes_inquiryPreface
    verify_inquiryPreparation with ⟨last, steps, ended⟩
  exact ⟨last, _, _, steps, ended .left,
    handshake_agreement .reference rereads inquiryParty last steps .left _ _ (ended .left)⟩

end Inquiry

end Colloq
