import Colloq.Nesting

/-!
# Code outside the repository

The digest of the `sha2` crate and the text layer of `serde_json` are
parameters of the model. What the derived serializers do is not part of them:
they are modelled, and hand a document to the text layer.
-/

namespace Colloq

structure Crates where
  /-- `Sha256::digest` -/
  sha256 : List UInt8 → Vector UInt8 32
  /-- `serde_json::to_vec`, from the document that the serializer describes. -/
  toVec : Json → List UInt8
  /-- The text layer of `serde_json::from_slice`: the document that a text contains. -/
  fromSlice : List UInt8 → Except String Json

/-- The text layer reads back every document that it writes. -/
def Crates.Lossless (crates : Crates) : Prop :=
  ∀ json, crates.fromSlice (crates.toVec json) = .ok json

/-- It reads back every document without floats that is nested less than 128 deep. -/
def Crates.ReadsBack (crates : Crates) : Prop :=
  ∀ json : Json, json.Plain 127 → crates.fromSlice (crates.toVec json) = .ok json

/-- It refuses a document that is nested 128 deep, and reads any other one, where a float may
come back as a neighbouring one or be out of range. -/
def Crates.LimitsDepth (crates : Crates) (read : FiniteFloat → Option FiniteFloat) : Prop :=
  ∀ json, (crates.fromSlice (crates.toVec json)).toOption =
    if json.depth ≤ 127 then json.mapFloats read else none

theorem Crates.Lossless.readsBack {crates : Crates} (lossless : crates.Lossless) :
    crates.ReadsBack :=
  fun json _ => lossless json

theorem Crates.LimitsDepth.fromSlice_eq {crates : Crates}
    {read : FiniteFloat → Option FiniteFloat} (limits : crates.LimitsDepth read)
    {json mapped : Json} (shallow : json.depth ≤ 127) (same : json.mapFloats read = some mapped) :
    crates.fromSlice (crates.toVec json) = .ok mapped := by
  have result := limits json
  rw [if_pos shallow, same] at result
  cases decoded : crates.fromSlice (crates.toVec json) with
  | error error => simp [decoded, Except.toOption] at result
  | ok document => simpa [decoded, Except.toOption] using result

/-- `{byte:02x}` -/
def hexByte (byte : UInt8) : List Char :=
  [Nat.digitChar (byte.toNat / 16), Nat.digitChar (byte.toNat % 16)]

def sha256Identity (crates : Crates) (encoded : List UInt8) : String :=
  "sha256:" ++ String.ofList ((crates.sha256 encoded).toList.flatMap hexByte)

/-- `byte.is_ascii_hexdigit() && !byte.is_ascii_uppercase()` -/
def isLowerHexDigit (character : Char) : Bool :=
  character.isDigit || ('a' ≤ character && character ≤ 'f')

/-- No byte of a non-ASCII character is a hex digit, so the digest is read by characters. -/
def validSha256 (value : String) : Bool :=
  match "sha256:".toList.isPrefixOf? value.toList with
  | none => false
  | some digest => digest.length == 64 && digest.all isLowerHexDigit

def validId (value : String) : Bool :=
  match value.toList with
  | [] => false
  | first :: characters =>
    first.isLower && characters.all fun character =>
      character.isLower || character.isDigit || character == '_' || character == '.' ||
        character == '-'

theorem isLowerHexDigit_digitChar {digit : ℕ} (bound : digit < 16) :
    isLowerHexDigit (Nat.digitChar digit) = true := by
  interval_cases digit <;> decide

theorem hexByte_lower (byte : UInt8) : (hexByte byte).all isLowerHexDigit = true := by
  have bound := byte.toNat_lt
  simp only [hexByte, List.all_cons, List.all_nil, Bool.and_true, Bool.and_eq_true]
  exact ⟨isLowerHexDigit_digitChar (by omega), isLowerHexDigit_digitChar (by omega)⟩

theorem length_flatMap_hexByte (bytes : List UInt8) :
    (bytes.flatMap hexByte).length = 2 * bytes.length := by
  induction bytes with
  | nil => rfl
  | cons byte bytes ih => simp [hexByte, ih]; omega

theorem length_sha256Identity (crates : Crates) (encoded : List UInt8) :
    (sha256Identity crates encoded).length = 71 := by
  have digest : (String.ofList ((crates.sha256 encoded).toList.flatMap hexByte)).length = 64 := by
    rw [String.length_ofList, length_flatMap_hexByte, Vector.length_toList]
  rw [sha256Identity, String.length_append, digest]
  rfl

/-- Every digest is rendered in the form that the verifier demands. -/
theorem validSha256_sha256Identity (crates : Crates) (encoded : List UInt8) :
    validSha256 (sha256Identity crates encoded) = true := by
  have tag : "sha256:".toList = ['s', 'h', 'a', '2', '5', '6', ':'] := by decide
  simp only [validSha256, sha256Identity, String.toList_append, String.toList_ofList, tag,
    List.cons_append, List.nil_append, List.isPrefixOf?, beq_self_eq_true, if_true]
  rw [Bool.and_eq_true, beq_iff_eq, List.all_flatMap]
  refine ⟨?_, by simp [hexByte_lower]⟩
  rw [length_flatMap_hexByte, Vector.length_toList]

end Colloq
