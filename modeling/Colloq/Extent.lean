import Colloq.RoundTrip

/-!
# The extent of documents

A bound on the length of a JSON text that does not depend on how it is written, and
with it the envelopes that no codec finds too large.
-/

namespace Colloq

mutual

/-- The characters of the strings of a document, and its tokens. -/
def Json.extent : Json → ℕ
  | .null | .bool _ => 1
  | .number _ => 4
  | .string value => value.length + 1
  | .array items => extentItems items + 1
  | .object members => extentMembers members + 1

def Json.extentItems : List Json → ℕ
  | [] => 0
  | item :: items => item.extent + 1 + extentItems items

def Json.extentMembers : List (String × Json) → ℕ
  | [] => 0
  | (key, value) :: members => key.length + 1 + (value.extent + 1) + extentMembers members

end

/-- The compact formatter: no blanks, at most six bytes for each byte of a string, and at most
24 for a number. -/
def Crates.Concise (crates : Crates) : Prop :=
  ∀ json, (crates.toVec json).length ≤ 24 * json.extent

/-! ## The reference text -/

namespace JsonText

theorem length_toDigits_le (value : ℕ) (bound : value < 2 ^ 64) :
    (Nat.toDigits 10 value).length ≤ 20 :=
  Nat.toDigits_length 10 value 20 (by omega) (by omega)

theorem length_writeNumber_le (value : Number) : (writeNumber value).length ≤ 21 := by
  cases value with
  | posInt value =>
      have digits := length_toDigits_le value.toNat value.toNat_lt
      rw [writeNumber]
      omega
  | negInt value negative =>
      have bound := value.toInt_lt
      have lower := value.le_toInt
      have digits := length_toDigits_le value.toInt.natAbs (by omega)
      rw [writeNumber, List.length_cons]
      omega
  | float value =>
      have digits := length_toDigits_le value.bits.toNat value.bits.toNat_lt
      rw [writeNumber, List.length_append, List.length_singleton]
      omega

mutual

/-- An escaped character has at most six. -/
theorem length_write_le : (json : Json) → (write json).length ≤ 6 * json.extent
  | .null => by simp [write, Json.extent]
  | .bool value => by cases value <;> simp [write, Json.extent]
  | .number value => by
      have written := length_writeNumber_le value
      rw [write, Json.extent]
      omega
  | .string value => by
      have written := length_writeString_le value
      rw [write, Json.extent]
      omega
  | .array [] => by simp [write, Json.extent, Json.extentItems]
  | .array (item :: items) => by
      have head := length_write_le item
      have rest := length_writeItems_le items
      rw [write, Json.extent, Json.extentItems, List.length_append, List.length_cons]
      omega
  | .object [] => by simp [write, Json.extent, Json.extentMembers]
  | .object ((key, value) :: members) => by
      have name := length_writeString_le key
      have head := length_write_le value
      have rest := length_writeMembers_le members
      simp only [write, Json.extent, Json.extentMembers, List.length_append, List.length_cons]
      omega

theorem length_writeItems_le :
    (items : List Json) → (writeItems items).length ≤ 6 * Json.extentItems items + 1
  | [] => by simp [writeItems, Json.extentItems]
  | item :: items => by
      have head := length_write_le item
      have rest := length_writeItems_le items
      rw [writeItems, Json.extentItems, List.length_append, List.length_cons]
      omega

theorem length_writeMembers_le : (members : List (String × Json)) →
    (writeMembers members).length ≤ 6 * Json.extentMembers members + 1
  | [] => by simp [writeMembers, Json.extentMembers]
  | (key, value) :: members => by
      have name := length_writeString_le key
      have head := length_write_le value
      have rest := length_writeMembers_le members
      simp only [writeMembers, Json.extentMembers, List.length_append, List.length_cons]
      omega

end

end JsonText

theorem Crates.reference_concise : Crates.reference.Concise := by
  intro json
  have bytes := JsonText.length_encode_le json
  have characters := JsonText.length_write_le json
  rw [Crates.toVec_reference]
  omega

/-! ## Envelopes -/

theorem Json.extent_payload_le {frame : Frame} {payload : Value}
    (carried : frame.payload = some payload) : payload.json.extent ≤ frame.toJson.extent := by
  cases frame with
  | data sender receiver message own =>
      rw [Frame.payload] at carried
      simp [carried, Frame.toJson, Serde.skipNone, Json.extent, Json.extentMembers]
      omega
  | _ => simp [Frame.payload] at carried

theorem WireEnvelope.extent_toJson (envelope : WireEnvelope) :
    envelope.toJson.extent = envelope.colloqWire.length + envelope.conversation.length +
      envelope.conversationIdentity.length + envelope.state.length +
      envelope.frame.toJson.extent + 83 := by
  have keys : "colloq_wire".length = 11 ∧ "conversation".length = 12 ∧
      "conversation_identity".length = 21 ∧ "state".length = 5 ∧ "sequence".length = 8 ∧
      "frame".length = 5 := ⟨rfl, rfl, rfl, rfl, rfl, rfl⟩
  simp [WireEnvelope.toJson, Json.extent, Json.extentMembers, keys]
  omega

section Encode

variable {crates : Crates} {plan : PreparedPlan} {envelope : WireEnvelope}

theorem exists_encodeDocument (concise : crates.Concise) {document : Json}
    (small : document.extent ≤ 600000) :
    ∃ encoded, encodeDocument crates document = .ok encoded := by
  have bytes := concise document
  refine ⟨_, encodeDocument_eq_ok_iff.mpr ⟨?_, rfl⟩⟩
  rw [maxEnvelopeBytes]
  omega

/-- No codec finds a small envelope too large. -/
theorem PreparedPlan.Carries.exists_encode (carries : plan.Carries envelope)
    (concise : crates.Concise) (small : envelope.toJson.extent ≤ 500000)
    (encoding : WireEncoding) :
    ∃ encoded, (EnvelopeCodec.forPlan encoding plan).encode crates envelope = .ok encoded := by
  cases encoding with
  | reference => exact exists_encodeDocument concise (by omega)
  | compact =>
      rcases carries.encode_compact crates with ⟨transition, _, _, _, written⟩
      rw [written]
      apply exists_encodeDocument concise
      rw [WireEnvelope.extent_toJson] at small
      have keys : "t".length = 1 ∧ "q".length = 1 ∧ "p".length = 1 := ⟨rfl, rfl, rfl⟩
      cases carried : envelope.frame.payload with
      | none => simp [CompactEnvelope.toJson, Serde.skipNone, Json.extent, Json.extentMembers, keys]
      | some payload =>
          have inside := Json.extent_payload_le carried
          simp [CompactEnvelope.toJson, Serde.skipNone, Json.extent, Json.extentMembers, keys]
          omega

end Encode

end Colloq
