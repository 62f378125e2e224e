import Colloq.Json
import Colloq.Library.Checked

/-!
# Derived deserializers

What `serde`'s derive generates for a type with `deny_unknown_fields`: a struct is
read from an object by name or from an array by position, and an internally
tagged enum first takes its tag out. Errors are carried as their text, without
the position that `serde_json` appends.
-/

namespace Colloq.Serde

open Checked (ensure forEach)

/-- The members of a struct, each known and none twice. -/
def readStruct (names : List String) : Json → Except String (List (String × Json))
  | .object members => do
    forEach members fun (name, _) => ensure (name ∈ names) s!"unknown field `{name}`"
    ensure (members.map Prod.fst).Nodup "duplicate field"
    return members
  | .array items => do
    ensure (items.length ≤ names.length) "trailing characters"
    return names.zip items
  | _ => .error "invalid type, expected a struct"

/-- The tag of an internally tagged enum, and the content that remains. -/
def readTagged (tag : String) : Json → Except String (String × Json)
  | .object members =>
    match members.filter fun (name, _) => name == tag with
    | [(_, .string variant)] => .ok (variant, .object (members.filter fun (name, _) => name != tag))
    | [_] => .error "invalid type, expected variant identifier"
    | [] => .error s!"missing field `{tag}`"
    | _ :: _ :: _ => .error s!"duplicate field `{tag}`"
  | .array (.string variant :: items) => .ok (variant, .array items)
  | _ => .error "invalid type, expected an internally tagged enum"

section Fields

variable {α : Type} (read : Json → Except String α)

def readRequired (members : List (String × Json)) (name : String) : Except String α :=
  match members.lookup name with
  | none => .error s!"missing field `{name}`"
  | some json => read json

/-- An `Option`: `null` is `None`. -/
def readNullable : Json → Except String (Option α)
  | .null => .ok none
  | json => some <$> read json

/-- An `Option` field with `#[serde(default)]`, which may also be absent. -/
def readOptional (members : List (String × Json)) (name : String) : Except String (Option α) :=
  match members.lookup name with
  | none => .ok none
  | some json => readNullable read json

variable {read} {members : List (String × Json)} {name key : String} {json : Json}

@[simp]
theorem readRequired_cons : readRequired read ((key, json) :: members) name =
    if name = key then read json else readRequired read members name := by
  by_cases same : name = key
  · simp [readRequired, same]
  · simp [readRequired, List.lookup, beq_eq_false_iff_ne.mpr same, same]

@[simp]
theorem readOptional_nil : readOptional read [] name = .ok none := rfl

@[simp]
theorem readOptional_cons : readOptional read ((key, json) :: members) name =
    if name = key then readNullable read json else readOptional read members name := by
  by_cases same : name = key
  · simp [readOptional, same]
  · simp [readOptional, List.lookup, beq_eq_false_iff_ne.mpr same, same]

end Fields

/-- Known, distinct members are read as they stand. -/
theorem readStruct_object {names : List String} {members : List (String × Json)}
    (known : ∀ member ∈ members, member.1 ∈ names) (distinct : (members.map Prod.fst).Nodup) :
    readStruct names (.object members) = .ok members := by
  have allKnown : (forEach members fun (name, _) =>
      ensure (name ∈ names) s!"unknown field `{name}`") = .ok () :=
    Checked.forEach_eq_ok_iff.mpr fun member present =>
      Checked.ensure_eq_ok_iff.mpr (known member present)
  rw [readStruct, Checked.bind_eq_ok_iff]
  exact ⟨(), allKnown, Checked.bind_eq_ok_iff.mpr
    ⟨(), Checked.ensure_eq_ok_iff.mpr distinct, rfl⟩⟩

/-- A tag in front of the content is taken out. -/
theorem readTagged_object {tag variant : String} {members : List (String × Json)}
    (untagged : ∀ member ∈ members, member.1 ≠ tag) :
    readTagged tag (.object ((tag, .string variant) :: members)) =
      .ok (variant, .object members) := by
  have noTag : members.filter (fun (name, _) => name == tag) = [] :=
    List.filter_eq_nil_iff.mpr fun member present => by simpa using untagged member present
  have content : members.filter (fun (name, _) => name != tag) = members :=
    List.filter_eq_self.mpr fun member present => by simpa using untagged member present
  simp [readTagged, noTag, content]

def readString : Json → Except String String
  | .string value => .ok value
  | _ => .error "invalid type, expected a string"

@[simp]
theorem readString_string (value : String) : readString (.string value) = .ok value := rfl

def readU64 : Json → Except String UInt64
  | .number (.posInt value) => .ok value
  | _ => .error "invalid type, expected u64"

@[simp]
theorem readU64_posInt (value : UInt64) : readU64 (.number (.posInt value)) = .ok value := rfl

def readU16 : Json → Except String UInt16
  | .number (.posInt value) =>
    if value.toNat < UInt16.size then .ok value.toUInt16 else .error "invalid value, expected u16"
  | _ => .error "invalid type, expected u16"

@[simp]
theorem readU16_posInt (value : UInt16) :
    readU16 (.number (.posInt value.toUInt64)) = .ok value := by
  simp [readU16, value.toNat_lt]

def readValue (json : Json) : Except String Value := .ok (.fromJson json)

/-- `skip_serializing_if = "Option::is_none"` -/
def skipNone (name : String) : Option Value → List (String × Json)
  | none => []
  | some value => [(name, value.json)]

end Colloq.Serde
