import Colloq.Compile
import Colloq.JsonText

/-!
# Identities and what they name

The derived encodings lose nothing: equal documents come from equal values. Where
neither the text layer nor the digest confuses two documents, equal identities
therefore name the same conversation, up to its editorial parts, and the same plan.
-/

namespace Colloq

open Function (Injective)

/-! ## Digests -/

theorem hexByte_injective : Injective hexByte := by
  intro first second same
  rw [hexByte, hexByte, List.cons.injEq, List.singleton_inj] at same
  have firstBound := first.toNat_lt
  have secondBound := second.toNat_lt
  have high := congrArg JsonText.hexValue same.1
  have low := congrArg JsonText.hexValue same.2
  rw [JsonText.hexValue_digitChar (by omega), JsonText.hexValue_digitChar (by omega)] at high low
  apply UInt8.toNat_inj.mp
  omega

theorem flatMap_hexByte_injective : Injective fun bytes : List UInt8 => bytes.flatMap hexByte := by
  intro first
  induction first with
  | nil =>
      intro second same
      cases second with
      | nil => rfl
      | cons byte bytes => simp [hexByte] at same
  | cons byte bytes ih =>
      intro second same
      cases second with
      | nil => simp [hexByte] at same
      | cons other others =>
          simp only [List.flatMap_cons] at same
          rcases List.append_inj same rfl with ⟨head, rest⟩
          rw [hexByte_injective head, ih rest]

theorem Crates.Lossless.toVec_injective {crates : Crates} (lossless : crates.Lossless) :
    Injective crates.toVec := by
  intro first second same
  have read := congrArg crates.fromSlice same
  rw [lossless first, lossless second] at read
  exact Except.ok.inj read

/-- The digest has no collision on the texts of two documents. -/
def Crates.Distinguishes (crates : Crates) (first second : Json) : Prop :=
  crates.sha256 (crates.toVec first) = crates.sha256 (crates.toVec second) →
    crates.toVec first = crates.toVec second

/-- Equal identities come from equal documents. -/
theorem eq_of_sha256Identity {crates : Crates} (injective : Injective crates.toVec)
    {first second : Json} (distinguishes : crates.Distinguishes first second)
    (same : sha256Identity crates (crates.toVec first) =
      sha256Identity crates (crates.toVec second)) : first = second := by
  rw [sha256Identity, sha256Identity, String.append_right_inj, String.ofList_inj] at same
  apply injective
  apply distinguishes
  exact Vector.toList_inj.mp (flatMap_hexByte_injective same)

/-! ## Encodings -/

theorem StringMap.toList_injective {β : Type} :
    Injective fun map : StringMap β => map.toList := by
  intro first second same
  apply Std.ExtTreeMap.ext_getElem?
  intro key
  apply Option.ext
  intro value
  simp only at same
  rw [← Std.ExtTreeMap.mem_toList_iff_getElem?_eq_some, same,
    Std.ExtTreeMap.mem_toList_iff_getElem?_eq_some]

theorem array_injective {α : Type} {toJson : α → Json} (injective : Injective toJson) :
    Injective fun items : List α => Json.array (items.map toJson) := by
  intro first second same
  exact List.map_injective_iff.mpr injective (Json.array.inj same)

namespace Json

@[simp]
theorem ofOption_inj {first second : Option String} :
    ofOption first = ofOption second ↔ first = second := by
  cases first <;> cases second <;> simp [ofOption]

@[simp]
theorem ofStrings_inj {first second : List String} :
    ofStrings first = ofStrings second ↔ first = second := by
  have injective : Injective Json.string := by
    intro one other
    exact Json.string.inj
  exact (array_injective injective).eq_iff

@[simp]
theorem ofStringMap_inj {first second : StringMap String} :
    ofStringMap first = ofStringMap second ↔ first = second := by
  constructor
  · intro same
    rw [ofStringMap, ofStringMap, Json.object.injEq] at same
    apply StringMap.toList_injective
    apply List.map_injective_iff.mpr _ same
    intro one other equal
    simpa [Prod.ext_iff] using equal
  · intro same
    rw [same]

end Json

namespace Value

@[simp]
theorem json_inj {first second : Value} : first.json = second.json ↔ first = second := by
  constructor
  · intro same
    cases first
    cases second
    cases same
    rfl
  · intro same
    rw [same]

@[simp]
theorem members_inj {first second : StringMap Value} :
    members first = members second ↔ first = second := by
  constructor
  · intro same
    apply StringMap.toList_injective
    apply List.map_injective_iff.mpr _ same
    intro one other equal
    simpa [Prod.ext_iff] using equal
  · intro same
    rw [same]

end Value

theorem Module.toJson_injective : Injective Module.toJson := by
  intro first second same
  cases first
  cases second
  simpa [toJson] using same

theorem Role.toJson_injective : Injective Role.toJson := by
  intro first second same
  cases first
  cases second
  simpa [toJson] using same

theorem TypeDefinition.toJson_injective : Injective TypeDefinition.toJson := by
  intro first second same
  cases first
  cases second
  simpa [toJson] using same

theorem FailureDefinition.toJson_injective : Injective FailureDefinition.toJson := by
  intro first second same
  cases first
  cases second
  simpa [toJson] using same

theorem GlobalState.toJson_injective : Injective GlobalState.toJson := by
  intro first second same
  cases first <;> cases second <;> simp_all [toJson]

theorem Conversation.toJson_injective : Injective Conversation.toJson := by
  intro first second same
  cases first
  cases second
  simp [toJson, Module.toJson_injective.eq_iff, Role.toJson_injective.list_map.eq_iff,
    TypeDefinition.toJson_injective.list_map.eq_iff,
    FailureDefinition.toJson_injective.list_map.eq_iff,
    GlobalState.toJson_injective.list_map.eq_iff] at same
  simpa using same

theorem EndpointState.toJson_injective : Injective EndpointState.toJson := by
  intro first second same
  cases first <;> cases second <;> simp_all [toJson]

theorem Endpoint.toJson_injective : Injective Endpoint.toJson := by
  intro first second same
  cases first
  cases second
  simpa [toJson, EndpointState.toJson_injective.list_map.eq_iff] using same

theorem WireTransition.toJson_injective : Injective WireTransition.toJson := by
  intro first second same
  rcases first with ⟨firstId, firstState, firstOperation⟩
  rcases second with ⟨secondId, secondState, secondOperation⟩
  cases firstOperation <;> cases secondOperation <;>
    simp_all [toJson, WireOperation.members, UInt16.toUInt64_inj]

theorem CompactWirePlan.toJson_injective : Injective CompactWirePlan.toJson := by
  intro first second same
  cases first
  cases second
  simpa [toJson, WireTransition.toJson_injective.list_map.eq_iff] using same

/-! ## Conversations and plans -/

namespace Conversation

/-- The conversation without its editorial parts. -/
def semantic (conversation : Conversation) : Conversation :=
  { conversation with schema := none, annotations := ∅ }

variable {crates : Crates} {first second : Conversation}

theorem compiledPlan_semantic :
    first.semantic.compiledPlan crates = first.compiledPlan crates := rfl

theorem conversationIdentity_compiledPlan :
    (first.compiledPlan crates).conversationIdentity =
      sha256Identity crates (crates.toVec first.semantic.toJson) := rfl

theorem planIdentity_compiledPlan :
    (first.compiledPlan crates).planIdentity =
      (first.compiledPlan crates).calculateIdentity crates := rfl

theorem conversationIdentity_eq_iff (injective : Injective crates.toVec)
    (distinguishes : crates.Distinguishes first.semantic.toJson second.semantic.toJson) :
    (first.compiledPlan crates).conversationIdentity =
        (second.compiledPlan crates).conversationIdentity ↔
      first.semantic = second.semantic := by
  rw [conversationIdentity_compiledPlan, conversationIdentity_compiledPlan]
  constructor
  · intro same
    apply toJson_injective
    exact eq_of_sha256Identity injective distinguishes same
  · intro same
    rw [same]

end Conversation

namespace ColloqPlan

variable {crates : Crates} {first second : ColloqPlan}

/-- The document of a plan determines every field but the plan identity. -/
theorem eq_of_semanticJson (same : first.semanticJson = second.semanticJson)
    (identity : first.planIdentity = second.planIdentity) : first = second := by
  rcases first with ⟨_, _, _, _, _, firstWire⟩
  rcases second with ⟨_, _, _, _, _, secondWire⟩
  simp only at identity
  cases firstWire <;> cases secondWire <;>
    simp_all [semanticJson, CompactWirePlan.toJson_injective.eq_iff,
      Endpoint.toJson_injective.list_map.eq_iff]

theorem eq_of_calculateIdentity (injective : Injective crates.toVec)
    (distinguishes : crates.Distinguishes first.semanticJson second.semanticJson)
    (firstSigned : first.planIdentity = first.calculateIdentity crates)
    (secondSigned : second.planIdentity = second.calculateIdentity crates)
    (same : first.planIdentity = second.planIdentity) : first = second := by
  apply eq_of_semanticJson _ same
  rw [firstSigned, secondSigned] at same
  exact eq_of_sha256Identity injective distinguishes same

/-- Two conversations have one plan identity iff they have one conversation identity
iff they differ in nothing but their editorial parts, and the identity of a verified
plan fixes all its other fields. -/
theorem identities_name_meaning (crates : Crates) (injective : Injective crates.toVec) :
    (∀ (first second : Conversation) (firstPlan secondPlan : ColloqPlan),
      compile crates first = .ok firstPlan →
      compile crates second = .ok secondPlan →
      crates.Distinguishes first.semantic.toJson second.semantic.toJson →
      crates.Distinguishes firstPlan.semanticJson secondPlan.semanticJson →
      (firstPlan.planIdentity = secondPlan.planIdentity ↔
        firstPlan.conversationIdentity = secondPlan.conversationIdentity) ∧
      (firstPlan.conversationIdentity = secondPlan.conversationIdentity ↔
        first.semantic = second.semantic)) ∧
    ∀ first second : ColloqPlan,
      first.verify crates = .ok () →
      second.verify crates = .ok () →
      crates.Distinguishes first.semanticJson second.semanticJson →
      first.planIdentity = second.planIdentity →
      first = second := by
  constructor
  · intro first second firstPlan secondPlan firstCompiled secondCompiled conversations plans
    rcases compile_eq_ok_iff.mp firstCompiled with ⟨firstCompilable, rfl⟩
    rcases compile_eq_ok_iff.mp secondCompiled with ⟨secondCompilable, rfl⟩
    have meaning := Conversation.conversationIdentity_eq_iff injective conversations
    apply And.intro _ meaning
    constructor
    · intro same
      rw [eq_of_calculateIdentity injective plans
        Conversation.planIdentity_compiledPlan Conversation.planIdentity_compiledPlan same]
    · intro same
      rw [← first.compiledPlan_semantic, meaning.mp same, second.compiledPlan_semantic]
  · intro first second firstVerified secondVerified distinguishes same
    exact eq_of_calculateIdentity injective distinguishes
      ((verify_eq_ok_iff crates _).mp firstVerified).identity_eq
      ((verify_eq_ok_iff crates _).mp secondVerified).identity_eq same

/-- The inquiry as an editor stores it. -/
def annotatedInquiry : Conversation :=
  { Conversation.inquiry with
    schema := some "./colloq.schema.json"
    annotations := {("title", .null)} }

theorem compilable_annotatedInquiry : annotatedInquiry.Compilable :=
  { Conversation.compilable_inquiry with
    toWellFormed := (validate_eq_ok_iff annotatedInquiry).mp rfl }

theorem identities_name_meaning_annotatedInquiry :
    ((annotatedInquiry.compiledPlan .reference).planIdentity =
        (Conversation.inquiry.compiledPlan .reference).planIdentity ↔
      (annotatedInquiry.compiledPlan .reference).conversationIdentity =
        (Conversation.inquiry.compiledPlan .reference).conversationIdentity) ∧
    ((annotatedInquiry.compiledPlan .reference).conversationIdentity =
        (Conversation.inquiry.compiledPlan .reference).conversationIdentity ↔
      annotatedInquiry.semantic = Conversation.inquiry.semantic) ∧
    annotatedInquiry.compiledPlan .reference = Conversation.inquiry.compiledPlan .reference := by
  have injective : Injective Crates.reference.toVec := Crates.reference_lossless.toVec_injective
  rcases identities_name_meaning .reference injective with ⟨conversations, plans⟩
  rcases conversations _ _ _ _
    (compile_eq_ok_iff.mpr ⟨compilable_annotatedInquiry, rfl⟩) (compile_inquiry _)
    (fun _ => rfl) (fun _ => rfl) with ⟨whole, part⟩
  refine ⟨whole, part, ?_⟩
  apply plans
  · exact (verify_eq_ok_iff _ _).mpr compilable_annotatedInquiry.verified_compiledPlan
  · exact (verify_eq_ok_iff _ _).mpr Conversation.compilable_inquiry.verified_compiledPlan
  · intro _
    rfl
  · exact whole.mpr (part.mpr rfl)

end ColloqPlan

/-- Conversations of one plan identity have one meaning. -/
theorem Conversation.semantic_eq_of_planIdentity {crates : Crates}
    (injective : Injective crates.toVec) {first second : Conversation}
    (conversations : crates.Distinguishes first.semantic.toJson second.semantic.toJson)
    (plans : crates.Distinguishes (first.compiledPlan crates).semanticJson
      (second.compiledPlan crates).semanticJson)
    (same : (first.compiledPlan crates).planIdentity =
      (second.compiledPlan crates).planIdentity) : first.semantic = second.semantic := by
  have samePlan := ColloqPlan.eq_of_calculateIdentity injective plans
    Conversation.planIdentity_compiledPlan Conversation.planIdentity_compiledPlan same
  apply (Conversation.conversationIdentity_eq_iff injective conversations).mp
  rw [samePlan]

end Colloq
